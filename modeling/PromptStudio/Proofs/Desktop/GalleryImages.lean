import PromptStudio.Desktop.Gallery
import PromptStudio.Proofs.Bench.Step
import PromptStudio.Proofs.Files.Images

/-!
# What a gallery shows

A gallery shows the image files of a folder, or of the folder and all folders below it. Each is shown
once, and those of the folder itself come first. A file is shown by its path, so one whose path is too
long to be followed is left out.
-/

namespace PromptStudio.Gallery

open FileTree (IsImageFile)

variable {n : Nat} {d : Desk} {g : Gallery} {folder : String} {items : List GalleryItem}

/-! ### The grid -/

theorem numbered_apply (h : d.galleries[n]? = some g) : numbered n d = (.ok g, d) := by
  rw [numbered, Step.get_bind, h]
  rfl

theorem change_apply (h : d.galleries[n]? = some g) (f : Gallery → Gallery) :
    change n f d = (.ok (), { d with galleries := d.galleries.set n (f g) }) := by
  rw [change, Step.modify_apply, List.modify_eq_set_getElem?, h]
  rfl

/-- The desk with the given items in the grid of a gallery. -/
def showing (n : Nat) (g : Gallery) (items : List GalleryItem) (d : Desk) : Desk :=
  { d with galleries := d.galleries.set n { g with items := .ofList items } }

theorem galleries_showing (h : d.galleries[n]? = some g) (items : List GalleryItem) :
    (showing n g items d).galleries[n]? = some { g with items := .ofList items } := by
  obtain ⟨hn, -⟩ := List.getElem?_eq_some_iff.mp h
  exact List.getElem?_set_self hn

theorem refill_apply (h : d.galleries[n]? = some g) (items' : List GalleryItem) :
    change n (fun g => { g with items := .ofList items' }) (showing n g items d) =
      (.ok (), showing n g items' d) := by
  rw [change_apply (galleries_showing h items), showing, showing, List.set_set]

theorem append_apply (h : d.galleries[n]? = some g) (more : List GalleryItem) :
    append n more (showing n g items d) = (.ok (), showing n g (items ++ more) d) := by
  induction more generalizing items with
  | nil => rw [append, Step.pure_apply, List.append_nil]
  | cons item rest ih =>
    have hpush : (Lineup.ofList items).push item = .ok (.ofList (items ++ [item])) := by
      simp [Lineup.push, Lineup.ofList]
    rw [append, Step.bind_of_ok (numbered_apply (galleries_showing h items)), hpush,
      Step.orFail_bind, Step.bind_of_ok (refill_apply h _), ih, List.append_assoc]
    rfl

/-- A gallery shows what is listed in the folder, and then its window is refreshed. -/
theorem load_apply (h : d.galleries[n]? = some g) (hgrid : g.items.instead = none)
    (hfolder : d.bench.files.isFolder folder = true) (deep : Value) :
    load n (.text folder) deep d = ((d.bench.refresh g.window).elim (.ok ()) .error,
      showing n g ((d.bench.files.imageFiles folder deep.truthy).map .image) d) := by
  have hcleared : g.items.cleared = .ok (.ofList []) := by
    rw [Lineup.cleared, hgrid]
    rfl
  rw [load, Step.bind_of_ok (numbered_apply h), hcleared, Step.orFail_bind,
    Step.bind_of_ok (change_apply h _), Step.get_bind]
  -- The grid is empty now, and the files are those from before.
  change (orFail (.ok (d.bench.files.isFolder folder)) >>= _ : DeskStep Unit) (showing n g [] d) = _
  rw [Step.orFail_bind, hfolder]
  change (append n ((d.bench.files.imageFiles folder deep.truthy).map .image) >>= _) _ = _
  rw [Step.bind_of_ok (append_apply h _)]
  dsimp only
  rw [Step.bind_of_ok (numbered_apply (galleries_showing h _)), onBench_refreshWindow_apply]
  rfl

/-! ### The images of a folder -/

/-- A gallery shows exactly the image files of the folder, each once, or with those of all folders
below it behind them. -/
theorem load_shows_image_files {entries : List (String × Entry)} (hgallery : d.galleries[n]? = some g)
    (hgrid : g.items.instead = none) (htidy : d.bench.files.root.Tidy)
    (hfolder : d.bench.files.entries folder = .ok entries) :
    ∃ near far : List (List String),
      (∀ deep : Value, load n (.text folder) deep d =
        ((d.bench.refresh g.window).elim (.ok ()) .error,
          showing n g (((if deep.truthy then far else near).map (Path.joinAll folder)).map .image) d)) ∧
      (∀ way, way ∈ far ↔ IsImageFile folder entries way) ∧
      (∀ way, way ∈ near ↔ IsImageFile folder entries way ∧ way.length = 1) ∧
      (far.map (Path.joinAll folder)).Nodup ∧ near <+: far := by
  refine ⟨d.bench.files.imageWays folder false entries, d.bench.files.imageWays folder true entries,
    fun deep => ?_, fun way => ?_, fun way => ?_, FileTree.nodup_imageWays_paths htidy hfolder,
    FileTree.imageWays_flat_isPrefix htidy hfolder⟩
  · rw [load_apply hgallery hgrid (FileTree.isFolder_of_entries hfolder),
      FileTree.imageFiles_eq htidy hfolder]
    cases deep.truthy <;> rfl
  · simp [FileTree.mem_imageWays htidy hfolder]
  · simp [FileTree.mem_imageWays htidy hfolder]

/-! ### A folder with all kinds of entries -/

/-- A gallery with nothing in its grid. -/
def blank : Gallery := { scene := ⟨[]⟩, window := 0, owner := .nobody }

/-- A desk with one gallery and a folder that has the given entries. -/
def deskOver (entries : List (String × Entry)) : Desk :=
  { bench := {
      clock := Binary.ofInt 1700000000
      files := { root := .folder [("w", .folder [("p", .folder entries)])] } }
    galleries := [blank] }

theorem entries_deskOver (entries : List (String × Entry)) :
    (deskOver entries).bench.files.entries "/w/p" = .ok entries := by
  have hparts : Path.parts "/w/p" = ["", "w", "p"] := by decide +kernel
  have hlegal : FileTree.Legal "/w/p" := ⟨by decide +kernel, by decide, by decide⟩
  have hstart : (deskOver entries).bench.files.start "/w/p" = [] := ite_self []
  have hlocate : (deskOver entries).bench.files.locate "/w/p" = .ok ["w", "p"] := by
    rw [hlegal.locate_eq, hparts, hstart]
    rfl
  exact FileTree.entries_eq_ok_iff.mpr ⟨_, hlocate, rfl⟩

/-- An image, a folder with the name of an image and an image in it, a broken link and a file that is
no image. -/
def mixed : List (String × Entry) :=
  [("a.PNG", .file (.encoded 4 4 "PNG") none),
    ("b.png", .folder [("c.bmp", .file (.encoded 4 4 "BMP") none)]),
    ("d.jpg", .brokenLink),
    ("notes.txt", .file (.encoded 4 4 "PNG") none)]

theorem load_shows_image_files_mixed : ∃ near far : List (List String),
    (∀ deep : Value, load 0 (.text "/w/p") deep (deskOver mixed) = (.ok (), showing 0 blank
      (((if deep.truthy then far else near).map (Path.joinAll "/w/p")).map .image) (deskOver mixed))) ∧
    (∀ way, way ∈ far ↔ IsImageFile "/w/p" mixed way) ∧
    (∀ way, way ∈ near ↔ IsImageFile "/w/p" mixed way ∧ way.length = 1) ∧
    (far.map (Path.joinAll "/w/p")).Nodup ∧ near <+: far :=
  load_shows_image_files rfl rfl (by decide +kernel) (entries_deskOver mixed)

/-! ### A path that is too long -/

/-- A path with slashes behind it. -/
def slashed (path : String) : Nat → String
  | 0 => path
  | k + 1 => slashed path k ++ "/"

theorem utf8ByteSize_slashed (path : String) (k : Nat) :
    (slashed path k).utf8ByteSize = path.utf8ByteSize + k := by
  induction k with
  | zero => rfl
  | succ k ih => rw [slashed, String.utf8ByteSize_append, ih, Nat.add_assoc]; rfl

theorem entries_slashed {t : FileTree} {entries : List (String × Entry)} {k : Nat}
    (h : t.entries folder = .ok entries) (hshort : folder.utf8ByteSize + k < FileTree.pathLimit) :
    t.entries (slashed folder k) = .ok entries := by
  induction k with
  | zero => exact h
  | succ k ih =>
    refine FileTree.entries_slash (ih (by omega)) ?_
    rw [← slashed, utf8ByteSize_slashed]
    exact hshort

/-- The name of an image with a number of letters before its extension. -/
def longName : Nat → String
  | 0 => ".png"
  | k + 1 => "x" ++ longName k

theorem utf8ByteSize_longName (k : Nat) : (longName k).utf8ByteSize = k + 4 := by
  induction k with
  | zero => rfl
  | succ k ih =>
    rw [longName, String.utf8ByteSize_append, ih, Nat.add_comm, Nat.add_right_comm]
    rfl

theorem toList_longName (k : Nat) :
    (longName k).toList = List.replicate k 'x' ++ ['.', 'p', 'n', 'g'] := by
  induction k with
  | zero => decide +kernel
  | succ k ih => rw [longName, String.toList_append, ih]; rfl

theorem isFileName_longName {k : Nat} (h : k ≤ 251) : Path.IsFileName (longName k) := by
  have hsize := utf8ByteSize_longName k
  have hother {s : String} (hs : s.utf8ByteSize < 4) : longName k ≠ s := by
    rintro rfl
    omega
  exact {
    nonempty := hother (by decide)
    notDot := hother (by decide)
    notDots := hother (by decide)
    noSlash := by simp [toList_longName]
    noNul := by simp [toList_longName]
    short := by omega }

theorem isImage_longName : Path.isImage (longName 112) = true := by
  rw [Path.isImage, Path.extension,
    Path.baseName_of_notMem (isFileName_longName (by decide)).noSlash, toList_longName]
  decide +kernel

theorem imageWays_eq_nil {t : FileTree} {name : String} {content : Content} {time : Option Binary}
    {deep : Bool} (htidy : t.root.Tidy) (h : t.entries folder = .ok [(name, .file content time)])
    (hlong : FileTree.pathLimit ≤ (Path.join folder name).utf8ByteSize) :
    t.imageWays folder deep [(name, .file content time)] = [] := by
  refine List.eq_nil_iff_forall_not_mem.mpr fun way hway => ?_
  have himage := ((FileTree.mem_imageWays htidy h deep).mp hway).1
  obtain ⟨content', time', hfile⟩ := himage.file
  have hne : way ≠ [] := by
    rintro rfl
    cases hfile
  have hleaf := (Entry.mem_leafWays (FileTree.tidy_of_entries htidy h)).mpr ⟨hne, _, hfile, rfl⟩
  obtain rfl : way = [name] := List.mem_singleton.mp hleaf
  exact Nat.not_lt.mpr hlong himage.short

/-- An image right in the folder is not shown if the path of the folder is so long that the path of
the image is too long. -/
theorem load_leaves_out_long_path :
    let folder := slashed "/w/p" 3980
    let entries := [(longName 112, Entry.file (.encoded 4 4 "PNG") none)]
    (deskOver entries).bench.files.root.Tidy ∧
      (deskOver entries).bench.files.entries folder = .ok entries ∧
      Text.lower (Path.extension (Path.join folder (longName 112))) ∈ Path.imageExtensions ∧
      ∀ deep : Value, load 0 (.text folder) deep (deskOver entries) =
        (.ok (), showing 0 blank [] (deskOver entries)) := by
  intro folder entries
  have hname : Path.IsFileName (longName 112) := isFileName_longName (by decide)
  have htidy : (deskOver entries).bench.files.root.Tidy := by
    refine ⟨List.nodup_singleton _, by decide +kernel, ⟨List.nodup_singleton _, by decide +kernel,
      ⟨List.nodup_singleton _, hname, trivial, trivial⟩, trivial⟩, trivial⟩
  have hfolder : (deskOver entries).bench.files.entries folder = .ok entries :=
    entries_slashed (entries_deskOver entries) (by decide)
  have hlong : FileTree.pathLimit ≤ (Path.join folder (longName 112)).utf8ByteSize := by
    have hsize : folder.utf8ByteSize + (longName 112).utf8ByteSize = 4100 := by
      rw [utf8ByteSize_slashed, utf8ByteSize_longName]
      rfl
    rw [FileTree.pathLimit]
    rcases Path.join_cases hname.noSlash folder with hjoin | hjoin <;> rw [hjoin] <;>
      simp only [String.utf8ByteSize_append] <;> omega
  refine ⟨htidy, hfolder, ?_, fun deep => ?_⟩
  · rw [← Path.isImage_iff, Path.isImage_of_baseName_eq ?_ hname.noSlash]
    · exact isImage_longName
    · rw [Path.baseName_join, Path.baseName_of_notMem hname.noSlash]
  · rw [load_apply rfl rfl (FileTree.isFolder_of_entries hfolder),
      FileTree.imageFiles_eq htidy hfolder]
    rw [imageWays_eq_nil htidy hfolder hlong]
    rfl

end PromptStudio.Gallery
