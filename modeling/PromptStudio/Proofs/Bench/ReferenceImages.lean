import PromptStudio.Proofs.Bench.Alike
import PromptStudio.Proofs.Bench.ImageRequests

/-!
# Reference images

A reference image that cannot be read is logged and left out of the request. This holds for files that
are missing or are no pictures, but not for pictures with too many pixels and for paths with a zero
character: there the call breaks off, and nothing is sent.
-/

namespace PromptStudio

/-- A picture that does not open at the path can be passed over: what stands there has not too many
pixels, and the path has no zero character. -/
def FileTree.Skippable (t : FileTree) (path : String) : Prop :=
  '\x00' ∉ (t.realPath path).toList ∧
    ∀ w h, t.read (t.realPath path) = .ok (.header w h) → w * h ≤ Content.pixelLimit

namespace FileTree

variable {t : FileTree} {path : String}

theorem follow_ne_nul (root : Entry) (location parts : List String) :
    follow root location parts ≠ .error .nul := by
  fun_induction follow root location parts <;> simp_all

theorem locate_ne_nul (h : '\x00' ∉ path.toList) : t.locate path ≠ .error .nul := by
  rw [locate, if_neg (by simpa using h)]
  split
  · nofun
  · split
    · nofun
    · split <;> exact follow_ne_nul _ _ _

theorem read_of_nul (h : '\x00' ∈ path.toList) : t.read path = .error ⟨.nul, path⟩ := by
  have hlocate : t.locate path = .error .nul := by simp [locate, h]
  rw [read, entry, hlocate]
  rfl

theorem cause_ne_nul (hpath : '\x00' ∉ path.toList) {fault : FileFault}
    (h : t.read path = .error fault) : fault.cause ≠ .nul := by
  rw [read, entry] at h
  cases hlocate : t.locate path with
  | error cause =>
    rw [hlocate] at h
    cases h
    exact fun hcause => locate_ne_nul hpath (hlocate.trans (congrArg _ hcause))
  | ok location =>
    simp only [hlocate, blame, bind, Except.bind, Except.mapError] at h
    cases hentry : t.root.at? location with
    | none =>
      rw [hentry] at h
      cases h
      nofun
    | some e =>
      rw [hentry] at h
      cases e <;> cases h <;> nofun

theorem picture_of_large {w h : Nat} (hread : t.read (t.realPath path) = .ok (.header w h))
    (hlarge : Content.pixelLimit < w * h) : t.picture path = .error (.hugePicture (w * h)) := by
  have hsize : ¬(w = 0 ∨ h = 0) := by
    rintro (rfl | rfl) <;> simp at hlarge
  rw [picture, hread]
  change (Content.header w h).picture.mapError (Fault.ofPicture _) = _
  rw [Content.picture, if_neg hsize, if_pos hlarge]
  rfl

/-- A picture can be passed over exactly if a failure to open it is one of the system. -/
theorem skippable_iff :
    t.Skippable path ↔ ∀ fault, t.picture path = .error fault → fault.ofSystem = true := by
  constructor
  · rintro ⟨hnul, hsmall⟩ fault hpicture
    rw [picture] at hpicture
    cases hread : t.read (t.realPath path) with
    | error fault' =>
      rw [hread] at hpicture
      cases hpicture
      simpa [Fault.ofSystem] using cause_ne_nul hnul hread
    | ok content =>
      rw [hread] at hpicture
      change content.picture.mapError (Fault.ofPicture _) = .error fault at hpicture
      cases content with
      | bytes data =>
        cases hpicture
        rfl
      | encoded w h format => cases hpicture
      | header w h =>
        rw [Content.picture] at hpicture
        split at hpicture
        · cases hpicture
          rfl
        · rw [if_neg (Nat.not_lt.mpr (hsmall w h hread))] at hpicture
          cases hpicture
  · intro hsystem
    refine ⟨fun hnul => ?_, fun w h hread => ?_⟩
    · have hpicture : t.picture path = .error (.file ⟨.nul, t.realPath path⟩) := by
        rw [picture, read_of_nul hnul]
        rfl
      simpa [Fault.ofSystem] using hsystem _ hpicture
    · refine Nat.le_of_not_lt fun hlarge => ?_
      simpa [Fault.ofSystem] using hsystem _ (picture_of_large hread hlarge)

instance : DecidablePred t.Skippable := fun path =>
  decidable_of_iff ((match t.picture path with
    | .ok _ => true
    | .error fault => fault.ofSystem) = true) <| by
      rw [skippable_iff]
      cases t.picture path <;> simp

end FileTree

/-- The contents of a request for an image. -/
def Event.contents? : Event → Option (List Value)
  | .imageRequested _ contents _ => some contents
  | _ => none

theorem Event.isRequest_of_contents? {e : Event} {contents : List Value}
    (h : e.contents? = some contents) : e.isRequest = true := by
  cases e with
  | imageRequested => rfl
  | _ => cases h

/-- The contents of the requests for images that a step sends, in order. -/
def sentContents {α : Type} (x : BenchStep α) (b : Bench) : List (List Value) :=
  ((x b).2.calls.drop b.calls.length).filterMap Event.contents?

namespace Generation

variable {lang : Language} {b : Bench}

section

variable {files : FileTree} {path : String}

theorem loaded_cons_of_ok {p : Picture} (h : files.picture path = .ok p) (rest : List Value) :
    loaded files (.text path :: rest) = (loaded files rest).map (p :: ·) := by
  rw [loaded, FileTree.pictureAt, h]

theorem loaded_cons_of_error {fault : Fault} (h : files.picture path = .error fault)
    (rest : List Value) : loaded files (.text path :: rest) =
      if fault.ofSystem then loaded files rest else .error fault := by
  rw [loaded, FileTree.pictureAt, h]

theorem loaded_of_skippable {paths : List String} (h : ∀ path ∈ paths, files.Skippable path) :
    loaded files (paths.map .text) =
      .ok (paths.filterMap fun path => (files.picture path).toOption) := by
  induction paths with
  | nil => rfl
  | cons path paths ih =>
    rw [List.forall_mem_cons, FileTree.skippable_iff] at h
    rw [List.map_cons, List.filterMap_cons]
    cases hpicture : files.picture path with
    | ok p =>
      rw [loaded_cons_of_ok hpicture, ih h.2]
      rfl
    | error fault =>
      rw [loaded_cons_of_error hpicture, if_pos (h.1 fault hpicture), ih h.2]
      rfl

theorem loaded_of_not_skippable {before after : List String} {fault : Fault}
    (hbefore : ∀ path ∈ before, files.Skippable path) (hpicture : files.picture path = .error fault)
    (hsystem : fault.ofSystem = false) :
    loaded files ((before ++ path :: after).map .text) = .error fault := by
  induction before with
  | nil =>
    rw [List.nil_append, List.map_cons, loaded_cons_of_error hpicture, if_neg (by simp [hsystem])]
  | cons first before ih =>
    rw [List.forall_mem_cons, FileTree.skippable_iff] at hbefore
    rw [List.cons_append, List.map_cons]
    cases hfirst : files.picture first with
    | ok p =>
      rw [loaded_cons_of_ok hfirst, ih hbefore.2]
      rfl
    | error fault =>
      rw [loaded_cons_of_error hfirst, if_pos (hbefore.1 fault hfirst), ih hbefore.2]

theorem skippable_of_loaded {paths : List String} {pictures : List Picture}
    (h : loaded files (paths.map .text) = .ok pictures) : ∀ path ∈ paths, files.Skippable path := by
  induction paths generalizing pictures with
  | nil => nofun
  | cons path paths ih =>
    rw [List.map_cons] at h
    rw [List.forall_mem_cons, FileTree.skippable_iff]
    cases hpicture : files.picture path with
    | ok p =>
      rw [loaded_cons_of_ok hpicture] at h
      cases hrest : loaded files (paths.map .text) with
      | ok rest => exact ⟨fun _ hfault => (by cases hfault), ih hrest⟩
      | error fault =>
        rw [hrest] at h
        cases h
    | error fault =>
      rw [loaded_cons_of_error hpicture] at h
      split at h
      · rename_i hsystem
        exact ⟨fun _ hfault => Except.error.inj hfault ▸ hsystem, ih h⟩
      · cases h

end

/-! ### What is sent -/

/-- An order whose images load is sent with its prompt and the images. -/
theorem generate_adds (prompt : Option String) (paths : List String)
    (model ratio resolution : String) {key : String} {pictures : List Picture} (hb : lang.Ready b)
    (hclient : b.service.clientFault = none) (hkey : key ≠ "")
    (hloaded : loaded b.files (paths.map .text) = .ok pictures) :
    ∃ call : Event, call.contents? = some (promptParts prompt ++ pictures.map .picture) ∧
      ((b.record (.clientMade (.text key))).record call).Adds call
        (generate (textOrder prompt paths key model ratio resolution) b).2 := by
  obtain ⟨settings, b₁, -, hquiet, hb₁⟩ := generate_textOrder prompt model ratio resolution hb hclient
    hkey hloaded
  have hready₁ := (hb.record (.clientMade (.text key))).quiet hquiet
  let call : Event := .imageRequested (.text (if model = "" then Options.defaultModel else model))
    (promptParts prompt ++ pictures.map .picture) settings
  have hasks := Service.asks_of_gives
    (fun response => (lang.composes_steady.takeImage response).gives_bench) call
  have hsame : (b₁.record call).calls =
      ((b.record (.clientMade (.text key))).record call).calls := by
    rw [Bench.calls_record rfl, Bench.calls_record rfl, hquiet.calls_eq]
  refine ⟨call, rfl, ?_⟩
  rw [hb₁]
  exact (Bench.Adds.of_calls hsame).trans
    (Service.persist_adds hasks rfl Service.isKeyRefused hready₁.texts hready₁.onTime)

section

variable {α : Type} {x : BenchStep α} {key : Value} {call : Event} {contents : List Value}

theorem sentContents_of_adds (hcall : call.contents? = some contents)
    (h : ((b.record (.clientMade key)).record call).Adds call (x b).2) :
    ∃ n, sentContents x b = List.replicate (n + 1) contents := by
  have hheard := Event.isHeard_of_isRequest (Event.isRequest_of_contents? hcall)
  obtain ⟨made, hcalls, hmade⟩ := h
  have hnew : (x b).2.calls = b.calls ++ (.clientMade key :: call :: made) := by
    rw [hcalls, Bench.calls_record hheard, Bench.calls_record rfl, List.append_assoc,
      List.append_assoc]
    rfl
  rw [sentContents, hnew, List.drop_left, List.filterMap_cons_none rfl,
    List.filterMap_cons_some hcall]
  refine ⟨_, congrArg (contents :: ·) (List.eq_replicate_iff.mpr ⟨rfl, fun c hc => ?_⟩)⟩
  obtain ⟨e, he, hec⟩ := List.mem_filterMap.mp hc
  rcases hmade e he with rfl | ⟨_, rfl⟩
  · exact Option.some.inj (hec.symm.trans hcall)
  · cases hec

theorem sent_pos_of_adds (hcall : call.contents? = some contents)
    (h : ((b.record (.clientMade key)).record call).Adds call (x b).2) : 0 < sent x b := by
  have hrequest := Event.isRequest_of_contents? hcall
  have hclient : b.requests ≤ (b.record (.clientMade key)).requests :=
    Bench.requests_le ⟨_, (Bench.calls_record rfl b).symm⟩
  have hcalled := Bench.requests_of_append
    (Bench.calls_record (Event.isHeard_of_isRequest hrequest) (b.record (.clientMade key)))
  have hle := Bench.requests_le h.grows
  rw [if_pos hrequest] at hcalled
  unfold sent
  omega

end

theorem sentContents_of_not_loaded (prompt : Option String) (model ratio resolution : String)
    {key : String} {paths : List String} {fault : Fault} (hb : lang.Ready b)
    (hclient : b.service.clientFault = none) (hkey : key ≠ "")
    (hloaded : loaded b.files (paths.map .text) = .error fault) :
    let order := textOrder prompt paths key model ratio resolution
    (generate order b).1 = .error fault ∧ sentContents (generate order) b = [] := by
  intro order
  have hkey' : order.key.truthy = true := by simp [order, textOrder, Value.truthy, hkey]
  obtain ⟨b', hquiet, hb'⟩ := generate_of_not_loaded hb hkey' hclient rfl hloaded
  rw [sentContents, hb', hquiet.calls_eq, Bench.calls_record rfl, List.drop_left]
  exact ⟨rfl, rfl⟩

/-- The images of a request are those that open, in order, exactly if no path leads to a picture with
too many pixels or has a zero character. At the first path that does, the call breaks off. -/
theorem unreadable_images_skipped_iff (prompt : Option String) (paths : List String)
    (model ratio resolution : String) {key : String}
    (htable : b.catalog.table = Catalog.ofPairs lang.pairs) (htime : b.stamp.isOk = true)
    (hclient : b.service.clientFault = none) (hkey : key ≠ "") :
    let call := generate (textOrder prompt paths key model ratio resolution)
    let opened := paths.filterMap fun path => (b.files.picture path).toOption
    ((∃ n, sentContents call b =
        List.replicate (n + 1) (promptParts prompt ++ opened.map .picture)) ↔
      ∀ path ∈ paths, b.files.Skippable path) ∧
    ∀ before path after fault, paths = before ++ path :: after →
      (∀ earlier ∈ before, b.files.Skippable earlier) → b.files.picture path = .error fault →
      fault.ofSystem = false → (call b).1 = .error fault ∧ sentContents call b = [] := by
  intro call opened
  have hready : lang.Ready b := ⟨Language.loaded_of_table htable, htime⟩
  refine ⟨⟨?_, fun hskippable => ?_⟩, ?_⟩
  · rintro ⟨n, hsent⟩
    cases hloaded : loaded b.files (paths.map .text) with
    | ok pictures => exact skippable_of_loaded hloaded
    | error fault =>
      -- Where loading breaks off, nothing is sent at all.
      have hnone := (sentContents_of_not_loaded prompt model ratio resolution hready hclient hkey
        hloaded).2
      rw [hnone] at hsent
      cases hsent
  · obtain ⟨call, hcall, hadds⟩ := generate_adds prompt paths model ratio resolution hready hclient
      hkey (loaded_of_skippable hskippable)
    exact sentContents_of_adds hcall hadds
  · rintro before path after fault rfl hbefore hpicture hsystem
    exact sentContents_of_not_loaded prompt model ratio resolution hready hclient hkey
      (loaded_of_not_skippable hbefore hpicture hsystem)

/-- A workbench with pictures and with files that are none. -/
def album : Bench :=
  { Language.chinese.bench with
    files := { root := .folder [("w", .folder [
      ("cat.png", .file (.encoded 4 4 "PNG") none),
      ("empty.png", .file (.bytes []) none),
      ("sub", .folder []),
      ("link", .brokenLink),
      ("huge.png", .file (.header 20000 20000) none),
      ("dog.jpg", .file (.encoded 6 6 "JPEG") none)])] } }

/-- Paths into the album, two of which lead to pictures. -/
def albumPaths : List String :=
  ["/w/empty.png", "/w/cat.png", "/w/sub", "/w/none.png", "/w/link", "/w/dog.jpg"]

/-- The cat and the dog are sent; what is empty, a folder, missing or a broken link is left out. -/
theorem unreadable_images_skipped_iff_album :
    ∃ n, sentContents (generate (textOrder (some "draw") albumPaths "key" "" "ar_none" "2K")) album =
      List.replicate (n + 1) [.text "draw", .picture ⟨4, 4, some "PNG", true⟩,
        .picture ⟨6, 6, some "JPEG", true⟩] := by
  have htable : album.catalog.table = Catalog.ofPairs Language.chinese.pairs := rfl
  have hkey : "key" ≠ "" := by decide
  obtain ⟨hsent, -⟩ := unreadable_images_skipped_iff (some "draw") albumPaths "" "ar_none" "2K" htable
    Language.chinese.ready_bench.onTime rfl hkey
  have hopened : (albumPaths.filterMap fun path => (album.files.picture path).toOption) =
      [⟨4, 4, some "PNG", true⟩, ⟨6, 6, some "JPEG", true⟩] := by
    decide +kernel
  rw [hopened] at hsent
  exact hsent.mpr (by decide +kernel)

/-- A picture with too many pixels is not left out: the call fails, and nothing is sent. -/
theorem huge_image_breaks_off :
    let call := generate (textOrder (some "draw") ["/w/cat.png", "/w/huge.png", "/w/dog.jpg"] "key" ""
      "ar_none" "2K")
    (call album).1 = .error (.hugePicture 400000000) ∧ sentContents call album = [] := by
  have hready : Language.chinese.Ready album :=
    ⟨Language.loaded_of_table rfl, Language.chinese.ready_bench.onTime⟩
  have hread : album.files.read (album.files.realPath "/w/huge.png") = .ok (.header 20000 20000) :=
    eq_ok_of_toOption (by decide +kernel)
  have hbefore : ∀ path ∈ ["/w/cat.png"], album.files.Skippable path := by decide +kernel
  have hloaded : loaded album.files (["/w/cat.png", "/w/huge.png", "/w/dog.jpg"].map .text) =
      .error (.hugePicture 400000000) :=
    loaded_of_not_skippable hbefore (FileTree.picture_of_large hread (by decide)) rfl
  exact sentContents_of_not_loaded (some "draw") "" "ar_none" "2K" hready rfl (by decide) hloaded

end Generation

end PromptStudio
