import PromptStudio.Bench.Folder
import PromptStudio.Proofs.Bench.Replies
import PromptStudio.Proofs.Bench.Store
import PromptStudio.Proofs.Bench.Within
import PromptStudio.Studio.Background

/-!
# Steps that leave files, windows, texts and the store alone

Whether a window can be refreshed is decided from outside. A table of texts that was loaded is not
read again, and a store that is there is read and not written. So whatever is logged, looked up or
asked of the image service, the files are as before, windows refresh as before, texts read as before
and settings too.
-/

namespace PromptStudio

open Step (Same Within within_modify within_get_bind within_pure within_throw within_get
  within_orFail within_mapM)

/-- The same files are on both workbenches, windows refresh on both alike, and a store that is on the
first is on the second. -/
structure Bench.Kept (b b' : Bench) : Prop where
  windows : b'.refreshFaults = b.refreshFaults
  files : b'.files = b.files
  store : b.store.isSome = true → b'.store = b.store

/-- Moreover a table of texts that is on the first workbench is on the second. -/
structure Bench.Aloof (b b' : Bench) : Prop extends Bench.Kept b b' where
  texts : b.catalog.table.truthy = true → b'.catalog = b.catalog

namespace Bench

variable {b b' b'' : Bench}

theorem Kept.refl (b : Bench) : b.Kept b := ⟨rfl, rfl, fun _ => rfl⟩

theorem Kept.trans (h : b.Kept b') (h' : b'.Kept b'') : b.Kept b'' where
  windows := h'.windows.trans h.windows
  files := h'.files.trans h.files
  store := fun hstore => by
    have hsame := h.store hstore
    exact (h'.store (hsame ▸ hstore)).trans hsame

instance : IsPreorder Bench Bench.Kept where
  refl := Kept.refl
  trans := fun _ _ _ => Kept.trans

theorem Aloof.refl (b : Bench) : b.Aloof b := ⟨.refl b, fun _ => rfl⟩

theorem Aloof.trans (h : b.Aloof b') (h' : b'.Aloof b'') : b.Aloof b'' where
  toKept := h.toKept.trans h'.toKept
  texts := fun htable => by
    have hsame := h.texts htable
    exact (h'.texts (hsame ▸ htable)).trans hsame

instance : IsPreorder Bench Bench.Aloof where
  refl := Aloof.refl
  trans := fun _ _ _ => Aloof.trans

theorem Logged.aloof (h : b.Logged b') : b.Aloof b' := by
  obtain ⟨journal, printed, events, rfl⟩ := h
  exact ⟨⟨rfl, rfl, fun _ => rfl⟩, fun _ => rfl⟩

end Bench

namespace Step

variable {α : Type} {x : BenchStep α}

theorem Within.kept (h : Within Bench.Aloof x) : Within Bench.Kept x :=
  h.mono fun _ _ haloof => haloof.toKept

theorem Within.files (h : Within Bench.Aloof x) : Within (Same Bench.files) x :=
  h.mono fun _ _ haloof => haloof.files

end Step

/-- The files on the workbench of a desk. -/
def Desk.files (d : Desk) : FileTree := d.bench.files

/-- The desk with other files on its workbench. -/
def Desk.withFiles (d : Desk) (files : FileTree) : Desk :=
  { d with bench := { d.bench with files } }

theorem Step.Within.desk_files {α : Type} {x : BenchStep α} (h : Within Bench.Aloof x) :
    Within (Same Desk.files) (onBench x) := fun d => h.files d.bench

/-! ### Calls and the log -/

theorem aloof_recordEvent (e : Event) : Within Bench.Aloof (recordEvent e) :=
  within_modify fun _ => ⟨⟨rfl, rfl, fun _ => rfl⟩, fun _ => rfl⟩

theorem aloof_printText (s : String) : Within Bench.Aloof (printText s) :=
  within_modify fun _ => ⟨⟨rfl, rfl, fun _ => rfl⟩, fun _ => rfl⟩

theorem aloof_sleep (milliseconds : Nat) : Within Bench.Aloof (sleep milliseconds) :=
  (aloof_recordEvent _).bind fun _ =>
    within_modify fun _ => ⟨⟨rfl, rfl, fun _ => rfl⟩, fun _ => rfl⟩

theorem aloof_logText (s : String) : Within Bench.Aloof (logText s) :=
  fun b => (logged_logText s b).aloof

theorem aloof_logValue (v : Value) : Within Bench.Aloof (logValue v) := aloof_logText _

theorem aloof_refreshWindow (window : Nat) : Within Bench.Aloof (refreshWindow window) := by
  refine within_get.bind fun b => ?_
  split
  · exact within_throw _
  · exact within_pure _

/-! ### The store -/

namespace Store

theorem aloof_connect : Within Bench.Aloof connect := by
  intro b
  rcases connect_cases b with h | ⟨_, h⟩
  · rw [h]
    refine ⟨⟨rfl, rfl, fun hstore => ?_⟩, fun _ => rfl⟩
    obtain ⟨file, hfile⟩ := Option.isSome_iff_exists.mp hstore
    change some b.held = b.store
    rw [Bench.held, hfile, Option.getD_some]
  · rw [h]
    exact .refl b

theorem within_setting {R : Bench → Bench → Prop} [IsPreorder Bench R] (h : Within R connect)
    (key : String) (default : Value) : Within R (setting key default) := by
  have htables : Within R tables := by
    refine within_get.bind fun b => ?_
    split
    · exact within_pure _
    · exact within_throw _
  refine (h.bind fun _ => htables).bind fun d => (within_orFail _).bind fun _ =>
    (within_orFail _).bind fun _ => (within_orFail _).bind fun found => ?_
  cases found <;> exact within_pure _

theorem within_allSettings {R : Bench → Bench → Prop} [IsPreorder Bench R] (h : Within R connect) :
    Within R allSettings :=
  (within_setting h _ _).bind fun _ => (within_setting h _ _).bind fun _ =>
    (within_setting h _ _).bind fun _ => (within_setting h _ _).bind fun _ =>
    (within_setting h _ _).bind fun _ => within_pure _

theorem aloof_setting (key : String) (default : Value) : Within Bench.Aloof (setting key default) :=
  within_setting aloof_connect key default

theorem aloof_allSettings : Within Bench.Aloof allSettings := within_allSettings aloof_connect

end Store

/-! ### Texts -/

namespace Texts

theorem within_load {R : Bench → Bench → Prop} [IsPreorder Bench R] (hstore : Within R Store.connect)
    (htable : ∀ b catalog, R b { b with catalog }) (hprint : ∀ s, Within R (printText s)) :
    Within R load := by
  have huse (table : Value) : Within R (modify fun b => { b with
      catalog := { b.catalog with table, edition := b.catalog.edition + 1 } } : BenchStep Unit) :=
    within_modify fun b => htable b _
  have hlanguage (language : Value) : Within R (modify fun b => { b with
      catalog := { b.catalog with language } } : BenchStep Unit) :=
    within_modify fun b => htable b _
  unfold load
  refine (Store.within_setting hstore _ _).bind fun language => (hlanguage language).bind fun _ =>
    within_get.bind fun b => ?_
  dsimp only
  split
  · split
    · exact huse _
    · split
      · exact (hprint _).bind fun _ => huse _
      · exact within_throw _
  · exact huse _

theorem kept_load : Within Bench.Kept load :=
  within_load Store.aloof_connect.kept (fun _ _ => ⟨rfl, rfl, fun _ => rfl⟩)
    fun s => (aloof_printText s).kept

/-- A look-up does what loading the table does where there is none, and nothing else. -/
theorem within_lookup {R : Bench → Bench → Prop} [IsPreorder Bench R]
    (hload : ∀ b : Bench, b.catalog.table.truthy = false → R b (load b).2) (key default : Value)
    (args : List (String × Value)) : Within R (lookup key default args) := by
  have hfind (fallback : Value) : Within R (do
      let text ← orFail (find (← get).catalog.table key fallback)
      orFail (fillIn text args) : BenchStep Value) :=
    within_get.bind fun b => (within_orFail _).bind fun text => within_orFail _
  refine within_get_bind fun b => ?_
  dsimp only
  split
  · rename_i hempty
    exact Step.bind_keeps (hload b (by simpa using hempty)) fun _ b' hb => trans_of R hb (hfind _ b')
  · exact hfind _ b

theorem aloof_lookup (key default : Value) (args : List (String × Value)) :
    Within Bench.Aloof (lookup key default args) :=
  -- An empty table is replaced, and only a full one has to stay.
  within_lookup (fun b hempty => ⟨kept_load b, fun htable => by simp [htable] at hempty⟩) key default
    args

theorem aloof_say (key : String) : Within Bench.Aloof (say key) := aloof_lookup _ _ _

theorem aloof_sayWith (key : String) (args : List (String × Value)) :
    Within Bench.Aloof (sayWith key args) := aloof_lookup _ _ _

theorem aloof_log_sayWith (key : String) (args : List (String × Value)) :
    Within Bench.Aloof (do logValue (← sayWith key args)) :=
  (aloof_sayWith key args).bind fun _ => aloof_logValue _

theorem aloof_log_say (key : String) : Within Bench.Aloof (do logValue (← say key)) :=
  (aloof_say key).bind fun _ => aloof_logValue _

end Texts

/-! ### The image service -/

namespace Service

theorem aloof_makeClient (key : Value) : Within Bench.Aloof (makeClient key) := by
  refine (aloof_recordEvent _).bind fun _ => within_get.bind fun b => ?_
  split
  · exact within_throw _
  · exact within_pure _

theorem aloof_makeChat (model config : Value) : Within Bench.Aloof (makeChat model config) := by
  refine (aloof_recordEvent _).bind fun _ => within_get_bind fun b => ?_
  dsimp only
  cases b.service.chatFault <;> exact ⟨⟨rfl, rfl, fun _ => rfl⟩, fun _ => rfl⟩

theorem aloof_nextReply : Within Bench.Aloof nextReply := by
  refine within_get_bind fun b => ?_
  dsimp only
  cases b.service.replies with
  | nil => exact .refl b
  | cons reply rest => cases reply <;> exact ⟨⟨rfl, rfl, fun _ => rfl⟩, fun _ => rfl⟩

variable {α : Type} {request : BenchStep α}

theorem aloof_retry (isFinal : String → Bool) (hrequest : Within Bench.Aloof request)
    (left done : Nat) : Within Bench.Aloof (retry isFinal request left done) := by
  -- Each attempt is calm, and so is the pause before the next one.
  have hattempt (done : Nat) : Within Bench.Aloof (attempt request done) := by
    unfold attempt
    dsimp only
    split
    · exact (Texts.aloof_sayWith _ _).bind fun _ => (aloof_logValue _).bind fun _ => hrequest
    · exact hrequest
  induction left generalizing done with
  | zero =>
    unfold retry
    refine (hattempt done).outcome.bind fun r => ?_
    split
    · exact within_pure _
    · exact (within_pure _).ite ((aloof_sleep _).bind fun _ => within_pure _)
  | succ left ih =>
    unfold retry
    refine (hattempt done).outcome.bind fun r => ?_
    split
    · exact within_pure _
    · exact (within_pure _).ite ((aloof_sleep _).bind fun _ => ih _)

theorem aloof_persist (isFinal : String → Bool) (hrequest : Within Bench.Aloof request) :
    Within Bench.Aloof (persist isFinal request) := by
  refine (aloof_retry isFinal hrequest _ _).bind fun r => ?_
  split
  · exact within_pure _
  · exact (Texts.aloof_sayWith _ _).bind fun _ => (aloof_logValue _).bind fun _ => within_pure _

end Service

theorem composes_aloof : Composes fun _ => Within Bench.Aloof where
  orFail := within_orFail
  bind := Within.bind
  outcome := Within.outcome
  sayWith := Texts.aloof_sayWith
  logText := aloof_logText

namespace Generation

theorem aloof_openImages (paths : List Value) : Within Bench.Aloof (openImages paths) := by
  induction paths with
  | nil => exact within_pure _
  | cons path rest ih =>
    refine within_get.bind fun b => ?_
    split
    · exact ih.bind fun _ => within_pure _
    · refine Within.ite ?_ (within_throw _)
      exact (Texts.aloof_sayWith _ _).bind fun _ => (aloof_logValue _).bind fun _ => ih

theorem aloof_request (model : Value) (contents : List Value) (config : Value) :
    Within Bench.Aloof (request model contents config) :=
  (aloof_recordEvent _).bind fun _ => Service.aloof_nextReply.bind composes_aloof.takeImage

theorem aloof_contents (order : Order) : Within Bench.Aloof (contents order) := by
  refine Within.ite ?_ (within_pure _)
  exact (within_orFail _).bind fun _ => (Texts.aloof_sayWith _ _).bind fun _ =>
    (aloof_logValue _).bind fun _ => (within_orFail _).bind fun paths =>
    (aloof_openImages paths).bind fun _ => within_pure _

theorem aloof_generate (order : Order) : Within Bench.Aloof (generate order) := by
  unfold generate
  refine Within.ite ?_ ?_
  · exact (Texts.aloof_say _).bind fun _ => (aloof_logValue _).bind fun _ => within_pure _
  · refine (Service.aloof_makeClient _).bind fun _ => (aloof_contents order).bind fun contents =>
      (Texts.aloof_lookup _ _ _).bind fun ratio => ?_
    dsimp only
    refine Within.ite ((within_orFail _).bind fun promptLength => ?_)
      ((within_pure _).bind fun promptLength => ?_)
    all_goals
      exact (within_orFail _).bind fun _ => (Texts.aloof_sayWith _ _).bind fun _ =>
        (aloof_logValue _).bind fun _ => (Texts.aloof_sayWith _ _).bind fun _ =>
        (aloof_logValue _).bind fun _ => (composes_aloof.imageConfig _ _ _).bind fun _ =>
        Service.aloof_persist _ (aloof_request _ _ _)

end Generation

namespace Conversation

theorem aloof_send (session parts config : Value) :
    Within Bench.Aloof (send session parts config) := by
  have htake := Service.aloof_nextReply.bind composes_aloof.takeParts
  rw [send_eq]
  split
  · exact (aloof_recordEvent _).bind fun _ => htake
  · exact (within_throw _).bind fun _ => htake

theorem aloof_sessionFor (message : Message) (model : Value) :
    Within Bench.Aloof (sessionFor message model) := by
  unfold sessionFor
  split
  · refine (aloof_logText _).bind fun _ => ?_
    split
    · exact Service.aloof_makeChat _ _
    · exact within_throw _
  · exact within_pure _

theorem aloof_talk (message : Message) : Within Bench.Aloof (talk message) := by
  unfold talk
  split
  · exact (Texts.aloof_say _).bind fun _ => (aloof_logValue _).bind fun _ => within_pure _
  · refine (aloof_sessionFor _ _).bind fun session =>
      (composes_aloof.chatConfig _ _ _).bind fun config =>
      (Texts.aloof_lookup _ _ _).bind fun _ => (aloof_logText _).bind fun _ =>
      (Service.aloof_persist _ (aloof_send _ _ _)).bind fun items => ?_
    split <;> exact within_pure _

end Conversation

theorem Background.aloof_nameParts : Within Bench.Aloof nameParts :=
  (Store.aloof_setting _ _).bind fun _ => within_get.bind fun _ => within_pure _

end PromptStudio
