import PromptStudio.Browser.Chat
import PromptStudio.Desktop.Edit
import PromptStudio.Proofs.Studio.Saving
import PromptStudio.Proofs.Studio.Workers

/-!
# Which images are kept

Jobs, background workers and replies of the chat save images under names made of a start and of the
time, in whole seconds or in whole milliseconds. An image is lost when another one is saved at the
same place. That happens to images with the same start and the same time only, and to images of one
reply always, since they all have one name.
-/

namespace PromptStudio

open Step (Same Within Returns within_modify within_get within_pure within_throw within_orFail
  returns_bind saved_unwritten_bind saved_bind saved_bind_same saved_outcome get_bind mem_noted)
open Bench (files clock)
open Path (baseName fileName join)
open FileTree (Wrote)

/-! ### Images of jobs and workers -/

/-- The path ends in the name made of a start and a number, and starts at the root. -/
structure NamedPath (path start : String) (number : Int) : Prop where
  name : baseName path = fileName (baseName start) number
  absolute : path.startsWith "/" = true

theorem namedPath_absolute (t : FileTree) (folder start : String) (number : Int) :
    NamedPath (t.absolute (join folder (fileName start number))) start number where
  name := baseName_absolute_join t folder start number
  absolute := Path.startsWith_absolute (Path.startsWith_slash_iff.mpr ⟨_, rfl⟩) _

namespace Background

/-- What a worker saves. -/
def saves (front : FrontEnd) (order : Generation.Order) : Bench → List Save :=
  (compose front order).noted fun (picture, start, number, path) b =>
    imageSaves (.picture picture) path start number false b ++
      (saveImage (.picture picture) path false).noted (fun _ =>
        (logText ("Saved to temp: " ++ path)).noted fun _ => copySaves path start number picture.png) b

theorem unwritten_compose (front : FrontEnd) (order : Generation.Order) :
    Within (Step.Unwritten files) (compose front order) := by
  have hexpect (picture : Option Picture) (named : String × Int) (path : String) :
      Within (Step.Unwritten files) (do
        pure (← expectPicture picture, named.1, named.2, path) :
          BenchStep (Picture × String × Int × String)) := by
    cases picture with
    | none => exact (within_throw _).bind fun _ => within_pure _
    | some p => exact (within_pure _).bind fun _ => within_pure _
  refine (Texts.aloof_say _).files.unwritten.bind fun _ => (aloof_logValue _).files.unwritten.bind
    fun _ => (Generation.aloof_generate order).files.unwritten.bind fun picture =>
    aloof_nameParts.files.unwritten.bind fun named => within_get.bind fun b => ?_
  exact Within.ite ((unwritten_makeFolders _ _).bind fun _ => hexpect picture named _)
    (hexpect picture named _)

theorem returns_compose (front : FrontEnd) (order : Generation.Order) :
    Returns (fun made => NamedPath made.2.2.2 made.2.1 made.2.2.1) (compose front order) := by
  refine returns_bind fun _ => returns_bind fun _ => returns_bind fun _ =>
    returns_bind fun named => returns_bind fun b => ?_
  have hnamed := namedPath_absolute b.files outputFolder named.1 named.2
  generalize b.files.absolute (join outputFolder (fileName named.1 named.2)) = path
    at hnamed ⊢
  have hmade (picture : Option Picture) : Returns (fun made : Picture × String × Int × String =>
      NamedPath made.2.2.2 made.2.1 made.2.2.1) (do
        let picture ← expectPicture picture
        pure (picture, named.1, named.2, path) : BenchStep (Picture × String × Int × String)) :=
    returns_bind fun _ => Step.triple_pure fun _ _ => hnamed
  exact Step.Triple.ite (returns_bind fun _ => hmade _) (hmade _)

theorem saved_produce (front : FrontEnd) (order : Generation.Order) (b : Bench) :
    Saved (saves front order b) b.files (produce front order b).2.files := by
  rw [produce]
  apply saved_unwritten_bind files (unwritten_compose front order)
  rintro ⟨picture, start, number, path⟩ b₁ hcompose -
  have hpath : NamedPath path start number := returns_compose front order b trivial _ _ hcompose
  apply saved_bind files (saved_saveImage hpath.name b₁)
  intro _ b₂ hsave
  apply saved_unwritten_bind files (aloof_logText _).files.unwritten
  intro _ b₃ _ hlog
  apply saved_bind_same files
  · exact saved_keepCopy hpath.name ((holds_of_saveImage hpath.absolute hsave).of_wrote hlog)
      fun target => (Texts.aloof_log_sayWith _ _).files
  · exact fun _ => within_pure _

theorem same_changeImage (front : FrontEnd) (f : ImageTask → ImageTask) :
    Within (Same Desk.files) (changeImage front f) :=
  within_modify fun d => by cases front <;> rfl

theorem same_keepImage (front : FrontEnd) (picture : Picture) (path : String) :
    Within (Same Desk.files) (keepImage front picture path) := by
  cases front with
  | browser => exact (within_pure _).bind fun _ => same_changeImage .browser _
  | desktop =>
    exact (Texts.aloof_sayWith _ _).desk_files.bind fun _ => (within_pure _).bind fun _ =>
      same_changeImage .desktop _

theorem same_failImage (front : FrontEnd) (fault : Fault) :
    Within (Same Desk.files) (failImage front fault) := by
  refine (Texts.aloof_log_sayWith _ _).desk_files.bind fun _ => ?_
  cases front with
  | browser => exact (within_pure _).bind fun _ => same_changeImage .browser _
  | desktop =>
    exact (Texts.aloof_say _).desk_files.bind fun _ => (within_pure _).bind fun _ =>
      same_changeImage .desktop _

theorem saved_runImage (front : FrontEnd) (order : Generation.Order) (d : Desk) :
    Saved (saves front order d.bench) d.files (runImage front order d).2.files := by
  have hbench : (beginImage front d).2.bench = d.bench := by cases front <;> rfl
  have hfiles : d.files = (beginImage front d).2.files := congrArg files hbench.symm
  rw [runImage_eq, ← hbench, hfiles]
  generalize (beginImage front d).2 = d₁
  apply saved_bind_same Desk.files
  · apply saved_outcome Desk.files
    apply saved_bind_same Desk.files
    · apply saved_outcome Desk.files
      exact saved_bind_same Desk.files (saved_onBench (saved_produce front order d₁.bench)) fun made =>
        same_keepImage front made.1 made.2
    · intro r
      cases r with
      | ok _ => exact within_pure _
      | error fault => exact same_failImage front fault
  · exact fun r => Within.ite ((same_changeImage front _).bind fun _ => within_orFail r)
      (within_orFail r)

end Background

theorem onBench_eq_ok {α : Type} {x : BenchStep α} {d d' : Desk} {a : α}
    (h : onBench x d = (.ok a, d')) : x d.bench = (.ok a, d'.bench) := by
  rw [onBench_apply] at h
  obtain ⟨hresult, hdesk⟩ := Prod.mk.inj h
  exact Prod.ext hresult (congrArg Desk.bench hdesk)

namespace EditPage

open Background (nameParts)

/-- What a job of a page saves. -/
def saves (n : Nat) (image : Value) (d : Desk) : List Save :=
  if image.truthy then
    (onBench nameParts).noted (fun (start, number) d =>
      let path := d.bench.files.absolute (join outputFolder (fileName start number))
      imageSaves image path start number false d.bench ++
        (onBench (saveImage image path false)).noted (fun _ => (noteSaved n path).noted fun _ d =>
          copySaves path start number (pictured image).png d.bench) d) d
  else []

theorem same_change (n : Nat) (f : EditPage → EditPage) : Within (Same Desk.files) (change n f) :=
  within_modify fun _ => rfl

theorem saved_taskSucceeded (n : Nat) (image : Value) (d : Desk) :
    Saved (saves n image d) d.files (taskSucceeded n image d).2.files := by
  rw [saves]
  split_ifs with himage
  · rw [taskSucceeded, if_pos himage]
    apply saved_unwritten_bind Desk.files Background.aloof_nameParts.desk_files.unwritten
    rintro ⟨start, number⟩ d₁ - -
    rw [get_bind]
    have hpath := namedPath_absolute d₁.bench.files outputFolder start number
    apply saved_bind Desk.files (saved_onBench (saved_saveImage hpath.name d₁.bench))
    intro _ d₂ hsave
    have hholds := holds_of_saveImage hpath.absolute (onBench_eq_ok hsave)
    apply saved_unwritten_bind Desk.files
    · exact ((same_change n _).bind fun _ => (same_change n _).bind fun _ =>
        (Texts.aloof_log_sayWith _ _).desk_files).unwritten
    intro _ d₃ _ hnote
    apply saved_bind_same Desk.files
    · apply saved_onBench
      exact saved_keepCopy hpath.name (hholds.of_wrote hnote) fun _ => within_pure _
    · exact fun _ => within_get.bind fun _ => (aloof_refreshWindow _).desk_files
  · rw [taskSucceeded, if_neg himage]
    exact .of_eq (same_change n _ d)

end EditPage

/-! ### Images of replies -/

namespace Browser.Chat

/-- The files on the workbench of a round. -/
def benchFiles (s : Value × Bench) : FileTree := s.2.files

/-- What saving an image of a reply saves. -/
def keepSaves (folder session image : Value) (b : Bench) : List Save :=
  if folder.truthy then
    (makeFolders folder.display true).noted (fun _ b =>
      imageSaves image (join folder.display (fileName session.display b.milliseconds))
        session.display b.milliseconds true b) b
  else []

theorem saved_keepImage (folder session image : Value) (b : Bench) :
    Saved (keepSaves folder session image b) b.files (keepImage folder session image b).2.files := by
  rw [keepSaves, keepImage]
  cases folder.truthy with
  | false => exact .of_eq rfl
  | true =>
    simp only [Bool.not_true, Bool.false_eq_true, if_false, if_true]
    apply saved_bind_same files
    · apply saved_outcome files
      apply saved_unwritten_bind files (unwritten_makeFolders _ _)
      intro _ b₁ _ _
      rw [get_bind]
      apply saved_bind_same files
      · exact saved_saveImage (baseName_join_fileName _ _ _) b₁
      · exact fun _ => within_pure _
    · intro r
      cases r with
      | ok _ => exact within_pure _
      | error fault =>
        exact Within.ite ((aloof_recordEvent _).files.bind fun _ => within_pure _) (within_throw _)

/-- What saving the images of a reply one after another saves. -/
def imagesSaves (folder session : Value) : List Value → Value × Bench → List Save
  | [], _ => []
  | image :: rest, s => keepSaves folder session image s.2 ++
      (onBench (keepImage folder session image)).noted (fun e =>
        (append e).noted fun _ => imagesSaves folder session rest) s

theorem same_onBench {α : Type} {x : BenchStep α} (h : Within (Same files) x) :
    Within (Same benchFiles) (onBench x) := fun s => h s.2

theorem same_change (f : Value → Except Fault Value) : Within (Same benchFiles) (change f) :=
  within_get.bind fun _ => (within_orFail _).bind fun _ => within_modify fun _ => rfl

theorem saved_showImages (folder session : Value) (images : List Value) (s : Value × Bench) :
    Saved (imagesSaves folder session images s) (benchFiles s)
      (benchFiles (showImages folder session images s).2) := by
  induction images generalizing s with
  | nil => exact .of_eq rfl
  | cons image rest ih =>
    have hkeep : Saved (keepSaves folder session image s.2) (benchFiles s)
        (benchFiles (onBench (keepImage folder session image) s).2) :=
      saved_keepImage folder session image s.2
    rw [imagesSaves, showImages]
    apply saved_bind benchFiles hkeep
    intro e s₁ _
    apply saved_unwritten_bind benchFiles (same_change _).unwritten
    exact fun _ s₂ _ _ => ih s₂

theorem same_opening (parts session : Value) : Within (Same benchFiles) (opening parts session) := by
  have hitems (folder id : Value) : Within (Same benchFiles) (do
      let parts ← orFail (parts.items.mapError .value)
      let texts := parts.filter isText
      if !texts.isEmpty then
        append (entry "assistant" (.text ("\n".intercalate (texts.map Value.display))))
      pure (folder, id, parts.filter fun part => !isText part) :
        Round (Value × Value × List Value)) :=
    (within_orFail _).bind fun _ => Within.ite ((same_change _).bind fun _ => within_pure _)
      (within_pure _)
  refine (within_orFail _).bind fun id => (same_onBench (Store.aloof_setting _ _).files).bind
    fun folder => Within.ite ?_ (hitems folder id)
  exact (same_onBench (aloof_recordEvent _).files).bind fun _ => hitems folder id

/-- What showing a reply saves. -/
def replySaves (parts session : Value) : Value × Bench → List Save :=
  (change dropPlaceholder).noted fun _ =>
    match parts, session with
    | .null, _ | _, .null => fun _ => []
    | parts, session => (opening parts session).noted fun (folder, id, images) =>
      imagesSaves folder id images

theorem saved_showParts (parts session : Value) (s : Value × Bench) :
    Saved ((opening parts session).noted (fun (folder, id, images) => imagesSaves folder id images) s)
      (benchFiles s) (benchFiles (showParts parts session s).2) := by
  apply saved_unwritten_bind benchFiles (same_opening _ _).unwritten
  rintro ⟨folder, id, images⟩ s₁ - -
  apply saved_bind_same benchFiles
  · exact saved_showImages folder id images s₁
  · exact fun _ => within_pure _

theorem saved_showReply (parts session : Value) (s : Value × Bench) :
    Saved (replySaves parts session s) (benchFiles s) (benchFiles (showReply parts session s).2) := by
  have hoops : Within (Same benchFiles) (do
      append (entry "assistant" (.text "😥 Oops, something went wrong."))
      pure .null : Round Value) := (same_change _).bind fun _ => within_pure _
  unfold showReply
  apply saved_unwritten_bind benchFiles (same_change _).unwritten
  intro _ s₁ _ _
  dsimp only
  split
  · exact .of_eq (hoops s₁)
  · simpa only using Saved.of_eq (hoops s₁)
  · simpa only using saved_showParts _ _ s₁

/-! ### The name of the images of a reply -/

theorem clock_makeFolders (path : String) (existOk : Bool) :
    Within (Same clock) (makeFolders path existOk) := by
  intro b
  rw [makeFolders, get_bind]
  dsimp only
  generalize b.files.makeFolders path existOk = made
  obtain ⟨files, fault | fault⟩ := made <;> rfl

theorem clock_saveImage (image : Value) (path : String) (byName : Bool) :
    Within (Same clock) (saveImage image path byName) := by
  intro b
  rcases saveImage_cases image path byName b with ⟨files, -, hsave⟩ | ⟨fault, hsave⟩ <;>
    (rw [hsave]; rfl)

theorem clock_keepImage (folder session image : Value) :
    Within (Same clock) (keepImage folder session image) := by
  have hevent (e : Event) : Within (Same clock) (recordEvent e) := within_modify fun _ => rfl
  refine Within.ite (within_pure _) (Within.bind ?_ fun r => ?_)
  · exact ((clock_makeFolders _ _).bind fun _ => within_get.bind fun _ =>
      (clock_saveImage _ _ _).bind fun _ => within_pure _).outcome
  · cases r with
    | ok _ => exact within_pure _
    | error fault =>
      exact Within.ite ((hevent _).bind fun _ => within_pure _) (within_throw _)

/-- The clock on the workbench of a round. -/
def benchClock (s : Value × Bench) : Binary := s.2.clock

theorem clock_showImage (folder session image : Value) :
    Within (Same benchClock) (onBench (keepImage folder session image) >>= append) := by
  have hkeep : Within (Same benchClock) (onBench (keepImage folder session image)) :=
    fun s => clock_keepImage folder session image s.2
  exact hkeep.bind fun _ => within_get.bind fun _ => (within_orFail _).bind fun _ =>
    within_modify fun _ => rfl

theorem imagePath_congr {folder session : Value} {b b' : Bench} (h : b'.clock = b.clock) :
    imagePath folder session b' = imagePath folder session b := by
  rw [imagePath, imagePath, Bench.milliseconds, Bench.milliseconds, h]

theorem path_of_mem_keepSaves {folder session image : Value} {b : Bench} {v : Save}
    (hv : v ∈ keepSaves folder session image b) :
    v.path = imagePath folder session b ∧ v.copied = false := by
  rw [keepSaves] at hv
  split_ifs at hv
  · obtain ⟨_, b₁, hmade, hv⟩ := mem_noted.mp hv
    obtain ⟨_, b₂, -, hv⟩ := mem_noted.mp hv
    obtain rfl := List.mem_singleton.mp hv
    have hclock := (clock_makeFolders folder.display true b).eq
    rw [hmade] at hclock
    exact ⟨imagePath_congr hclock, rfl⟩
  · cases hv

theorem path_of_mem_imagesSaves {folder session : Value} {images : List Value} {s : Value × Bench}
    {v : Save} (hv : v ∈ imagesSaves folder session images s) :
    v.path = imagePath folder session s.2 ∧ v.copied = false := by
  induction images generalizing s with
  | nil => cases hv
  | cons image rest ih =>
    rcases List.mem_append.mp hv with hv | hv
    · exact path_of_mem_keepSaves hv
    · obtain ⟨e, s₁, hkeep, hv⟩ := mem_noted.mp hv
      obtain ⟨_, s₂, happend, hv⟩ := mem_noted.mp hv
      have hclock := (clock_showImage folder session image s).eq
      rw [Step.bind_of_ok hkeep, happend] at hclock
      obtain ⟨hpath, hcopied⟩ := ih hv
      exact ⟨hpath.trans (imagePath_congr hclock), hcopied⟩

theorem exists_path_replySaves (parts session : Value) (s : Value × Bench) :
    ∃ path, ∀ v ∈ replySaves parts session s, v.path = path ∧ v.copied = false := by
  unfold replySaves
  rcases hfirst : change dropPlaceholder s with ⟨fault | _, s₁⟩
  · rw [Step.noted_of_error hfirst]
    exact ⟨"", nofun⟩
  · rw [Step.noted_of_ok hfirst]
    split
    · exact ⟨"", nofun⟩
    · exact ⟨"", nofun⟩
    · rcases hopen : opening parts session s₁ with ⟨fault | ⟨folder, id, images⟩, s₂⟩
      · rw [Step.noted_of_error hopen]
        exact ⟨"", nofun⟩
      · rw [Step.noted_of_ok hopen]
        exact ⟨_, fun v hv => path_of_mem_imagesSaves hv⟩

end Browser.Chat

/-! ### Runs -/

namespace Saving

/-- Something that happens while images are saved. -/
inductive Move where
  /-- A job of a page for single images has come to its result. -/
  | job (page : Nat) (image : Value)
  /-- A worker for an image runs. -/
  | work (front : FrontEnd) (order : Generation.Order)
  /-- A reply of the chat is shown in a history. -/
  | reply (parts session history : Value)
  /-- Whatever else happens to the desk: time passes, settings and pages change, folders are made.
  No file is written or taken away. -/
  | aside (f : Desk → Desk) (h : ∀ d, Wrote [] d.files (f d).files)

namespace Move

/-- The desk after a move. -/
def after : Move → Desk → Desk
  | job page image, d => (EditPage.taskSucceeded page image d).2
  | work front order, d => (Background.runImage front order d).2
  | reply parts session history, d =>
    { d with bench := (Browser.Chat.showReply parts session (history, d.bench)).2.2 }
  | aside f _, d => f d

/-- The images that a move saves. -/
def saves : Move → Desk → List Save
  | job page image, d => EditPage.saves page image d
  | work front order, d => Background.saves front order d.bench
  | reply parts session history, d => Browser.Chat.replySaves parts session (history, d.bench)
  | aside .., _ => []

theorem saved (move : Move) (d : Desk) : Saved (move.saves d) d.files (move.after d).files := by
  cases move with
  | job page image => exact EditPage.saved_taskSucceeded page image d
  | work front order => exact Background.saved_runImage front order d
  | reply parts session history =>
    exact Browser.Chat.saved_showReply parts session (history, d.bench)
  | aside f h => exact .of_wrote (h d)

end Move

/-- The desk after a run. -/
def after (moves : List Move) (d : Desk) : Desk := moves.foldl (fun d move => move.after d) d

/-- The images that a run saves, in order. -/
def saves : List Move → Desk → List Save
  | [], _ => []
  | move :: moves, d => move.saves d ++ saves moves (move.after d)

theorem saved_run (moves : List Move) (d : Desk) :
    Saved (saves moves d) d.files (after moves d).files := by
  induction moves generalizing d with
  | nil => exact .of_eq rfl
  | cons move moves ih => exact (move.saved d).trans (ih (move.after d))

/-- A desk with a folder for images. -/
def shelf : Desk :=
  { bench := {
      clock := Binary.ofInt 1700000000
      files := { root := .folder [("w", .folder [])] }
      store := some (.tables { settings := some [⟨.text "save_path", .text "/w/pics"⟩] }) } }

/-- A reply with two pictures. -/
def twoPictures : Move :=
  .reply (.list [.picture { width := 4, height := 4 }, .picture { width := 6, height := 6 }])
    (.object [("id", .text "chat_1"), ("session_obj", .null)]) (.list [])

end Saving

end PromptStudio
