import PromptStudio.Browser.Assets
import PromptStudio.Proofs.Bench.Steady
import PromptStudio.Proofs.Desktop.GalleryImages

/-!
# The images of a folder in both interfaces

The browser lists what has the name of an image, the desktop only files among that. So the list of the
desktop is what is left of that of the browser when folders, broken links and files behind paths that
are too long are taken out. The two agree exactly if there is none of these.
-/

namespace PromptStudio

open FileTree (LooksAt looked)

variable {lang : Language} {b : Bench} {store : Database} {rows : List Setting} {folder : String}
  {entries : List (String × Entry)}

theorem Language.Ready.holding (h : lang.Ready b) (store : Database) :
    lang.Ready (b.holding store) := ⟨⟨h.texts.table, h.texts.full⟩, h.onTime⟩

theorem Store.saveSetting_apply (hstore : b.store = some (.tables store))
    (hrows : store.settingRows = .ok rows) (key value : String) :
    ∃ store', saveSetting (.text key) (.text value) b = (.ok (), b.holding store') := by
  rw [saveSetting, Step.bind_of_ok (opened_apply hstore)]
  simp only [Step.bind_apply, check_apply, bind_text_apply, hrows, mapError_ok, Database.saveSetting]
  exact ⟨_, rfl⟩

namespace Browser.Assets

/-- The browser lists what has the name of an image. -/
theorem imagesOf_apply (htidy : b.files.root.Tidy) (h : b.files.entries folder = .ok entries)
    (deep : Bool) : imagesOf folder deep b =
      (.ok (((looked folder deep entries).map (Path.joinAll folder)).filter Path.isImage), b) := by
  rw [imagesOf, Step.get_bind, ← FileTree.paths_looked htidy h]
  cases deep with
  | true => rfl
  | false =>
    have hnames : b.files.names folder = .ok (entries.map Prod.fst) := by
      rw [FileTree.names, h]
      rfl
    have hfilter : (entries.map Prod.fst).filter Path.isImage =
        (entries.map Prod.fst).filter (Path.isImage ∘ Path.join folder) := by
      refine List.filter_congr fun name hname => ?_
      obtain ⟨entry, hentry, rfl⟩ := List.mem_map.mp hname
      have hslash := (Entry.tidyAll_iff.mp (FileTree.tidy_of_entries htidy h).2 entry hentry).1.noSlash
      refine (Path.isImage_of_baseName_eq ?_ hslash).symm
      rw [Path.baseName_join, Path.baseName_of_notMem hslash]
    rw [if_neg Bool.false_ne_true, if_neg Bool.false_ne_true, FileTree.imagesIn, hnames]
    change (Except.ok (((entries.map Prod.fst).filter Path.isImage).map (Path.join folder)), b) =
      (.ok (((entries.map Prod.fst).map (Path.join folder)).filter Path.isImage), b)
    rw [hfilter]
    exact congrArg (fun paths => (Except.ok paths, b)) List.filter_map.symm

theorem load_apply (hready : lang.Ready b) (hstore : b.store = some (.tables store))
    (hrows : store.settingRows = .ok rows) (htidy : b.files.root.Tidy)
    (h : b.files.entries folder = .ok entries) (deep : Bool) :
    ∃ message b', load (.text folder) (.bool deep) b =
      (.ok (((looked folder deep entries).map (Path.joinAll folder)).filter Path.isImage, message),
        b') := by
  obtain ⟨location, hlocate, -⟩ := FileTree.entries_eq_ok_iff.mp h
  have htruthy : (Value.text folder).truthy = true := by
    simpa [Value.truthy] using (FileTree.legal_of_locate hlocate).nonempty
  have hhas : b.files.hasValue (.text folder) = .ok true := by
    rw [FileTree.hasValue, FileTree.has, FileTree.entry_of_entries h]
    rfl
  obtain ⟨store', hsave⟩ := Store.saveSetting_apply hstore hrows "last_dir" folder
  have hready' := hready.holding store'
  have himages := imagesOf_apply (b := b.holding store') htidy h deep
  rw [load, if_pos htruthy, Step.get_bind, hhas, Step.orFail_bind]
  dsimp only
  rw [if_neg (by decide : ¬(!true) = true), Step.bind_of_ok hsave]
  change ∃ message b', (imagesOf folder deep >>= _) (b.holding store') = _
  rw [Step.bind_of_ok himages]
  generalize ((looked folder deep entries).map (Path.joinAll folder)).filter Path.isImage = images
  obtain ⟨message, hmessage⟩ := lang.exists_fillIn "logic_log_loadDir"
    [("path", .text folder), ("count", .int images.length)] (by simp [Language.logTemplates])
  obtain ⟨b₁, hsay, hquiet⟩ := Language.gives_sayWith _ _ _ hready'
  rw [hmessage] at hsay
  rw [Step.bind_of_ok hsay]
  obtain ⟨b₂, hlog, -⟩ := Language.gives_logText message.display _ (hready'.quiet hquiet)
  exact ⟨message, b₂, Step.bind_of_ok hlog⟩

end Browser.Assets

/-- Both interfaces list the images of a folder, the desktop those of the browser that are files with
paths that are not too long. They list the same images exactly if all that the browser lists are. -/
theorem image_lists_agree_iff {d : Desk} {n : Nat} {g : Gallery} (hready : lang.Ready d.bench)
    (hstore : d.bench.store = some (.tables store)) (hrows : store.settingRows = .ok rows)
    (hgallery : d.galleries[n]? = some g) (hgrid : g.items.instead = none)
    (htidy : d.bench.files.root.Tidy) (hfolder : d.bench.files.entries folder = .ok entries)
    (deep : Bool) :
    ∃ images shown message b',
      Browser.Assets.load (.text folder) (.bool deep) d.bench = (.ok (images, message), b') ∧
      Gallery.load n (.text folder) (.bool deep) d =
        ((d.bench.refresh g.window).elim (.ok ()) .error, Gallery.showing n g (shown.map .image) d) ∧
      shown.Sublist images ∧
      (images = shown ↔ ∀ way x, (Entry.folder entries).at? way = some x →
        LooksAt folder deep way x →
        Text.lower (Path.extension (Path.joinAll folder way)) ∈ Path.imageExtensions →
        (∃ content time, x = .file content time) ∧
          (Path.joinAll folder way).utf8ByteSize < FileTree.pathLimit) := by
  obtain ⟨message, b', hload⟩ := Browser.Assets.load_apply hready hstore hrows htidy hfolder deep
  have hshown : d.bench.files.imageFiles folder deep =
      (((looked folder deep entries).map (Path.joinAll folder)).filter Path.isImage).filter
        d.bench.files.isFile := by
    rw [FileTree.imageFiles, FileTree.paths_looked htidy hfolder, List.filter_filter]
  refine ⟨_, d.bench.files.imageFiles folder deep, message, b', hload,
    Gallery.load_apply hgallery hgrid (FileTree.isFolder_of_entries hfolder) (.bool deep), ?_, ?_⟩
  · rw [hshown]
    exact List.filter_sublist
  · rw [hshown, eq_comm, List.filter_eq_self]
    constructor
    · intro hfiles way x hx hlooks himage
      refine (FileTree.isFile_way htidy hfolder hx).mp (hfiles _ (List.mem_filter.mpr ⟨?_, ?_⟩))
      · exact List.mem_map.mpr ⟨way, (FileTree.mem_looked htidy hfolder).mpr ⟨x, hx, hlooks⟩, rfl⟩
      · exact Path.isImage_iff.mpr himage
    · intro hfiles path hpath
      obtain ⟨hpath, himage⟩ := List.mem_filter.mp hpath
      obtain ⟨way, hway, rfl⟩ := List.mem_map.mp hpath
      obtain ⟨x, hx, hlooks⟩ := (FileTree.mem_looked htidy hfolder).mp hway
      exact (FileTree.isFile_way htidy hfolder hx).mpr
        (hfiles way x hx hlooks (Path.isImage_iff.mp himage))

/-! ### A folder and a broken link with the names of images -/

/-- An image, a folder and a broken link, all with the names of images. -/
def lookalikes : List (String × Entry) :=
  [("a.png", .file (.encoded 4 4 "PNG") none), ("album.png", .folder []), ("lost.png", .brokenLink)]

/-- A desk in English with one gallery and a folder that has the given entries. -/
def englishDesk (entries : List (String × Entry)) : Desk :=
  { Gallery.deskOver entries with
    bench := { Language.english.bench with
      files := (Gallery.deskOver entries).bench.files
      store := some (.tables { settings := some [] }) } }

theorem ready_englishDesk (entries : List (String × Entry)) :
    Language.english.Ready (englishDesk entries).bench :=
  ⟨Language.loaded_of_table rfl, Language.english.ready_bench.onTime⟩

theorem image_lists_agree_iff_lookalikes : ∃ images shown message b',
    Browser.Assets.load (.text "/w/p") (.bool true) (englishDesk lookalikes).bench =
      (.ok (images, message), b') ∧
    Gallery.load 0 (.text "/w/p") (.bool true) (englishDesk lookalikes) =
      (.ok (), Gallery.showing 0 Gallery.blank (shown.map .image) (englishDesk lookalikes)) ∧
    shown.Sublist images ∧
    (images = shown ↔ ∀ way x, (Entry.folder lookalikes).at? way = some x →
      LooksAt "/w/p" true way x →
      Text.lower (Path.extension (Path.joinAll "/w/p" way)) ∈ Path.imageExtensions →
      (∃ content time, x = .file content time) ∧
        (Path.joinAll "/w/p" way).utf8ByteSize < FileTree.pathLimit) :=
  image_lists_agree_iff (ready_englishDesk lookalikes) rfl rfl rfl rfl (by decide +kernel)
    (Gallery.entries_deskOver lookalikes) true

/-- The browser lists a folder and a broken link with the names of images, and the desktop does
not. -/
theorem browser_lists_lookalikes :
    (∃ message b', Browser.Assets.load (.text "/w/p") (.bool false) (englishDesk lookalikes).bench =
      (.ok (["/w/p/a.png", "/w/p/album.png", "/w/p/lost.png"], message), b')) ∧
    (∃ message b', Browser.Assets.load (.text "/w/p") (.bool true) (englishDesk lookalikes).bench =
      (.ok (["/w/p/a.png", "/w/p/lost.png"], message), b')) ∧
    ∀ deep : Bool, Gallery.load 0 (.text "/w/p") (.bool deep) (englishDesk lookalikes) =
      (.ok (), Gallery.showing 0 Gallery.blank [.image "/w/p/a.png"] (englishDesk lookalikes)) := by
  have htidy : (englishDesk lookalikes).bench.files.root.Tidy := by decide +kernel
  have hfolder : (englishDesk lookalikes).bench.files.entries "/w/p" = .ok lookalikes :=
    Gallery.entries_deskOver lookalikes
  have hbrowser := Browser.Assets.load_apply (ready_englishDesk lookalikes) rfl rfl htidy hfolder
  have hflat : ((looked "/w/p" false lookalikes).map (Path.joinAll "/w/p")).filter Path.isImage =
      ["/w/p/a.png", "/w/p/album.png", "/w/p/lost.png"] := by decide +kernel
  have hdeep : ((looked "/w/p" true lookalikes).map (Path.joinAll "/w/p")).filter Path.isImage =
      ["/w/p/a.png", "/w/p/lost.png"] := by decide +kernel
  have hfiles (deep : Bool) :
      (englishDesk lookalikes).bench.files.imageFiles "/w/p" deep = ["/w/p/a.png"] := by
    cases deep <;> decide +kernel
  refine ⟨hflat ▸ hbrowser false, hdeep ▸ hbrowser true, fun deep => ?_⟩
  rw [Gallery.load_apply rfl rfl (FileTree.isFolder_of_entries hfolder)]
  rw [Value.truthy, hfiles]
  rfl

end PromptStudio
