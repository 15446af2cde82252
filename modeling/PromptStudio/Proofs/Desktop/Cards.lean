import Mathlib.Data.List.InsertIdx
import Mathlib.Data.List.Perm.Basic
import PromptStudio.Desktop.Prompts
import PromptStudio.Proofs.Desktop.Scene
import PromptStudio.Proofs.Store.Titled

/-!
# The cards of prompts

A card of the page of prompts keeps the title of its prompt twice and shows its content. A page
whose cards are those of a list of prompts still has the cards of the list after both were changed
in the same way: a card was added, taken away, moved, or changed together with its prompt.
-/

namespace PromptStudio

/-! ### What a card shows -/

/-- What a field for text holds: nothing, or a text. -/
def Value.Written (v : Value) : Prop := v = .null ∨ ∃ s, v = .text s

theorem Value.Written.exists_text {v : Value} (h : v.Written) (htruthy : v.truthy = true) :
    ∃ s, s ≠ "" ∧ v = .text s := by
  rcases h with rfl | ⟨s, rfl⟩
  · cases htruthy
  · exact ⟨s, by simpa [truthy] using htruthy, rfl⟩

theorem Cell.InTexts.written {c : Cell} (h : c.InTexts) : c.toValue.Written := by
  cases c with
  | null => exact .inl rfl
  | text s => exact .inr ⟨s, rfl⟩
  | int | real => cases h

/-- Fields of a scene that hold nothing or a text. -/
def Scene.Written (s : Scene) (fields : List String) : Prop :=
  ∀ field ∈ fields, (s.value field).Written

variable {s : Scene}

theorem Scene.written_pair {field field' : String} (h : (s.value field).Written)
    (h' : (s.value field').Written) : s.Written [field, field'] := by
  intro name hname
  rcases List.mem_pair.mp hname with rfl | rfl
  · exact h
  · exact h'

theorem Scene.Written.setValue {fields : List String} (h : s.Written fields) (name t : String) :
    (s.setValue name (.text t)).Written fields := by
  intro field hfield
  rcases s.value_setValue_cases name field (.text t) with heq | heq <;> rw [heq]
  · exact .inr ⟨t, rfl⟩
  · exact h field hfield

theorem Scene.Written.set {fields : List String} (h : s.Written fields) {name : String}
    {property : String} {new : Node} (hproperty : property ≠ "value") :
    (s.set name property new).Written fields := by
  intro field hfield
  rw [value, readValue_set_of_ne (.inr hproperty.symm)]
  exact h field hfield

namespace Card

variable {c : Card} {row : Prompt} {s : Scene}

/-- The fields for editing a prompt. -/
def fields : List String := ["editTitleField", "editContentField"]

/-- A card is that of a prompt: it has its title, both as the one that the order is saved by and as
the one that the prompt is renamed from, and shows its content. -/
structure Shows (c : Card) (row : Prompt) : Prop where
  saved : c.savedTitle = row.title.toValue
  title : c.title = row.title.toValue
  content : c.scene.value "displayContent" = row.content.toValue
  card : (c.scene.control "card").IsControl
  display : (c.scene.control "displayContent").IsControl
  fields : c.scene.Written fields

section

variable (h : c.Shows row)
include h

theorem Shows.savedTitle_eq {t : String} (ht : row.title = .text t) : c.savedTitle = .text t := by
  rw [h.saved, ht]
  rfl

theorem Shows.set {name property : String} {new : Node} (hcard : name ≠ "card")
    (hdisplay : name ≠ "displayContent")
    (hfields : (c.scene.set name property new).Written Card.fields) :
    Shows { c with scene := c.scene.set name property new } row where
  saved := h.saved
  title := (Scene.readValue_set_of_ne (.inl hcard.symm)).trans h.title
  content := (Scene.readValue_set_of_ne (.inl hdisplay.symm)).trans h.content
  card := Scene.isControl_set h.card
  display := Scene.isControl_set h.display
  fields := hfields

theorem Shows.setVisible {name : String} (hcard : name ≠ "card")
    (hdisplay : name ≠ "displayContent") (visible : Bool) :
    Shows { c with scene := c.scene.setVisible name visible } row :=
  h.set hcard hdisplay (h.fields.set (by decide))

theorem Shows.typed {field : String} (hfield : field ∈ Card.fields) (t : String) :
    Shows { c with scene := Change.onScene ⟨[], "value", .text t⟩ field c.scene } row := by
  have hcard : field ≠ "card" := by
    rintro rfl
    exact absurd hfield (by decide)
  have hdisplay : field ≠ "displayContent" := by
    rintro rfl
    exact absurd hfield (by decide)
  rcases Change.onScene_cases "value" field (.text t) c.scene with heq | heq <;> rw [heq]
  · exact h.set hcard hdisplay (h.fields.setValue field t)
  · exact h

end

/-- A card after its prompt was given a new title. -/
def retitled (t : String) (c : Card) : Card :=
  { c with scene := c.scene.set "card" "prompt_title" (.value (.text t)) }

/-- A card after it has taken over a new title and content. -/
def rewritten (t s : String) (c : Card) : Card :=
  { c with
    savedTitle := .text t
    scene := (c.scene.setValue "displayTitle" (.text t)).setValue "displayContent" (.text s) }

/-- A card on which the prompt is shown, not the fields. -/
def displayed (c : Card) : Card :=
  { c with scene := (c.scene.setVisible "editView" false).setVisible "displayView" true }

/-- A card on which the fields are shown. -/
def opened (c : Card) : Card :=
  { c with scene := (c.scene.setVisible "displayView" false).setVisible "editView" true }

section

variable (h : c.Shows row)
include h

theorem Shows.displayed : c.displayed.Shows row :=
  (h.setVisible (by decide) (by decide) false).setVisible (by decide) (by decide) true

theorem Shows.opened : c.opened.Shows row :=
  (h.setVisible (by decide) (by decide) false).setVisible (by decide) (by decide) true

theorem Shows.rewritten (t s : String) :
    ((c.retitled t).rewritten t s).Shows { row with title := .text t, content := .text s } where
  saved := rfl
  title := by
    have htitle : (c.retitled t).title = .text t := Scene.readValue_set h.card
    rw [Card.title, Card.rewritten, Scene.setValue, Scene.setValue,
      Scene.readValue_set_of_ne (.inl (by decide)), Scene.readValue_set_of_ne (.inl (by decide))]
    exact htitle
  content := Scene.readValue_set (Scene.isControl_set (Scene.isControl_set h.display))
  card := Scene.isControl_set (Scene.isControl_set (Scene.isControl_set h.card))
  display := Scene.isControl_set (Scene.isControl_set (Scene.isControl_set h.display))
  fields := ((h.fields.set (by decide)).setValue _ t).setValue _ s

end

end Card

namespace PromptsPage

open Database

variable {rows : List Prompt} {id : Nat} {p : PromptsPage} {shown shown' : List (Card × Prompt)}
  {entry entry' : Card × Prompt} {o : String}

/-- The fields for a new prompt. -/
def fields : List String := ["newPromptTitleField", "newPromptContentField"]

/-- A page has the cards of prompts, from top to bottom. -/
structure Laid (p : PromptsPage) (shown : List (Card × Prompt)) : Prop where
  cards : p.cards = .ofList (shown.map Prod.fst)
  ids : (shown.map fun entry => entry.1.id).Nodup
  known : ∀ entry ∈ shown, entry.1.id < p.nextCard
  shows : ∀ entry ∈ shown, entry.1.Shows entry.2
  fields : p.scene.Written fields

section

variable (h : Laid p shown)
include h

theorem Laid.instead : p.cards.instead = none := by
  rw [h.cards]
  rfl

theorem Laid.card?_cases (id : Nat) :
    p.card? id = none ∨ ∃ entry ∈ shown, entry.1.id = id ∧ p.card? id = some entry.1 := by
  rw [card?, h.cards, Lineup.owned_ofList, List.find?_map]
  cases hfound : shown.find? ((fun c : Card => decide (c.id = id)) ∘ Prod.fst) with
  | none => exact .inl rfl
  | some entry =>
    exact .inr ⟨entry, List.mem_of_find?_eq_some hfound, by simpa using List.find?_some hfound, rfl⟩

theorem Laid.eq_of_id {entry entry' : Card × Prompt} (hentry : entry ∈ shown)
    (hentry' : entry' ∈ shown) (hid : entry.1.id = entry'.1.id) : entry = entry' :=
  List.inj_on_of_nodup_map h.ids hentry hentry' hid

theorem Laid.of_subset (hsubset : shown' ⊆ shown)
    (hids : (shown'.map fun entry => entry.1.id).Nodup) :
    Laid { p with cards := .ofList (shown'.map Prod.fst) } shown' where
  cards := rfl
  ids := hids
  known entry hentry := h.known entry (hsubset hentry)
  shows entry hentry := h.shows entry (hsubset hentry)
  fields := h.fields

/-- A card can be put below the others. -/
theorem Laid.concat {c : Card} {row : Prompt} (hid : c.id = p.nextCard) (hshows : c.Shows row) :
    Laid { p with
      cards := .ofList ((shown ++ [(c, row)]).map Prod.fst)
      nextCard := p.nextCard + 1 } (shown ++ [(c, row)]) where
  cards := rfl
  ids := by
    rw [List.map_append, List.nodup_append]
    refine ⟨h.ids, by simp, ?_⟩
    rintro _ hold _ hnew rfl
    obtain ⟨entry, hentry, hentryId⟩ := List.mem_map.mp hold
    have hlt := h.known entry hentry
    have hlast : entry.1.id = c.id := hentryId.trans (List.mem_singleton.mp hnew)
    omega
  known := by
    intro entry hentry
    rcases List.mem_append.mp hentry with hentry | hentry
    · exact Nat.lt_succ_of_lt (h.known entry hentry)
    · rw [List.mem_singleton.mp hentry, hid]
      exact Nat.lt_succ_self _
  shows := by
    intro entry hentry
    rcases List.mem_append.mp hentry with hentry | hentry
    · exact h.shows entry hentry
    · rw [List.mem_singleton.mp hentry]
      exact hshows
  fields := h.fields

theorem Laid.placed :
    Laid p (shown.mapIdx fun i entry => (entry.1, { entry.2 with place := .int i })) where
  cards := by
    rw [h.cards]
    exact congrArg Lineup.ofList (List.ext_getElem (by simp) (by simp))
  ids := by
    have hids : (shown.mapIdx fun i entry => (entry.1, { entry.2 with place := Cell.int i })).map
        (fun entry => entry.1.id) = shown.map fun entry => entry.1.id :=
      List.ext_getElem (by simp) (by simp)
    rw [hids]
    exact h.ids
  known := by
    intro entry hentry
    obtain ⟨i, hi, rfl⟩ := List.mem_mapIdx.mp hentry
    exact h.known shown[i] (List.getElem_mem hi)
  shows := by
    intro entry hentry
    obtain ⟨i, hi, rfl⟩ := List.mem_mapIdx.mp hentry
    obtain ⟨hsaved, htitle, hcontent, hcard, hdisplay, hfields⟩ :=
      h.shows shown[i] (List.getElem_mem hi)
    exact ⟨hsaved, htitle, hcontent, hcard, hdisplay, hfields⟩
  fields := h.fields

theorem Laid.withCard {f : Card → Card} {g : Prompt → Prompt} (hid : ∀ c, (f c).id = c.id)
    (hshows : ∀ entry ∈ shown, (if entry.1.id = id then f entry.1 else entry.1).Shows (g entry.2)) :
    Laid (p.withCard id f)
      (shown.map fun entry => (if entry.1.id = id then f entry.1 else entry.1, g entry.2)) where
  cards := by
    rw [PromptsPage.withCard, h.cards]
    simp [Lineup.map, Lineup.ofList, Function.comp_def]
  ids := by
    have hids (entry : Card × Prompt) :
        (if entry.1.id = id then f entry.1 else entry.1).id = entry.1.id := by
      split
      · exact hid _
      · rfl
    simpa [Function.comp_def, hids] using h.ids
  known := by
    simp only [List.forall_mem_map]
    intro entry hentry
    split
    · rw [hid]
      exact h.known entry hentry
    · exact h.known entry hentry
  shows := by simpa only [List.forall_mem_map] using hshows
  fields := h.fields

end

theorem withCard_withCard {f g : Card → Card} (hid : ∀ c, (f c).id = c.id) (p : PromptsPage)
    (id : Nat) : (p.withCard id f).withCard id g = p.withCard id (g ∘ f) := by
  simp only [PromptsPage.withCard, Lineup.map, List.map_map]
  congr 2
  refine List.map_congr_left fun item _ => ?_
  cases item with
  | other n => rfl
  | own c => by_cases hc : c.id = id <;> simp [hc, hid]

/-! ### Cards and prompts in the store -/

theorem mem_rows (horder : shown.map Prod.snd = inOrder rows) (hentry : entry ∈ shown) :
    entry.2 ∈ rows := by
  have hmem : entry.2 ∈ shown.map Prod.snd := List.mem_map_of_mem hentry
  rw [horder] at hmem
  exact (inOrder_perm rows).mem_iff.mp hmem

theorem eq_of_title (htitled : Titled rows) (horder : shown.map Prod.snd = inOrder rows)
    (hentry : entry ∈ shown) (hentry' : entry' ∈ shown) (htitle : entry.2.title = entry'.2.title) :
    entry = entry' := by
  have hdistinct : (shown.map fun entry => entry.2.title).Nodup := by
    have htitles : (shown.map fun entry => entry.2.title) = (inOrder rows).map Prompt.title := by
      rw [← horder, List.map_map]
      rfl
    rw [htitles]
    exact ((inOrder_perm rows).map _).nodup_iff.mpr htitled.distinct
  exact List.inj_on_of_nodup_map hdistinct hentry hentry' htitle

section

variable (hlaid : Laid p shown) (htitled : Titled rows)
  (horder : shown.map Prod.snd = inOrder rows) (hentry : entry ∈ shown)
  (htitle : entry.2.title = .text o)
include hlaid htitled horder hentry htitle

theorem Laid.id_eq_iff (hentry' : entry' ∈ shown) :
    entry'.1.id = entry.1.id ↔ entry'.2.title = .text o := by
  constructor
  · intro hid
    rw [hlaid.eq_of_id hentry' hentry hid]
    exact htitle
  · intro htitle'
    rw [eq_of_title htitled horder hentry' hentry (htitle'.trans htitle.symm)]

theorem Laid.renamed (t s : String) : ∃ shown',
      Laid (p.withCard entry.1.id fun c => ((c.retitled t).rewritten t s).displayed) shown' ∧
      shown'.map Prod.snd = (shown.map Prod.snd).map (Prompt.renamed o t s) := by
  refine ⟨_, hlaid.withCard (g := Prompt.renamed o t s) (fun _ => rfl) ?_, by simp⟩
  intro entry' hentry'
  have hiff := hlaid.id_eq_iff htitled horder hentry htitle hentry'
  rcases Prompt.renamed_cases o t s entry'.2 with ⟨htitle', heq⟩ | ⟨htitle', heq⟩ <;> rw [heq]
  · rw [if_pos (hiff.mpr htitle')]
    exact ((hlaid.shows entry' hentry').rewritten t s).displayed
  · rw [if_neg (mt hiff.mp htitle')]
    exact hlaid.shows entry' hentry'

/-- The card of a prompt that is deleted is taken away. -/
theorem Laid.deleted : ∃ shown', Laid { p with cards := { p.cards with
        items := p.cards.items.filter fun item => !isCard entry.1.id item } } shown' ∧
      shown'.map Prod.snd =
        (shown.map Prod.snd).filter fun row => !row.title.collides (.text o) := by
  have hcards : ({ p.cards with
      items := p.cards.items.filter fun item => !isCard entry.1.id item } : Lineup Card) =
      .ofList ((shown.filter fun other => !decide (other.1.id = entry.1.id)).map Prod.fst) := by
    rw [hlaid.cards]
    simp [Lineup.ofList, List.filter_map, Function.comp_def, isCard]
  have hsublist : (shown.filter fun other => !decide (other.1.id = entry.1.id)).Sublist shown :=
    List.filter_sublist
  have hlaid' := hlaid.of_subset hsublist.subset (hlaid.ids.sublist (hsublist.map _))
  rw [← hcards] at hlaid'
  refine ⟨_, hlaid', ?_⟩
  rw [List.filter_map]
  refine congrArg (List.map Prod.snd) (List.filter_congr fun other hother => ?_)
  have hiff := hlaid.id_eq_iff htitled horder hentry htitle hother
  rw [← Cell.collides_text_iff] at hiff
  exact congrArg not (Bool.eq_iff_iff.mpr (by simpa using hiff))

end

/-! ### Moving cards -/

theorem moved_map {α γ : Type} (f : α → γ) (l : List α) (place target : Nat) :
    moved (l.map f) place target = (moved l place target).map f := by
  rw [moved, moved, List.getElem?_map]
  cases l[place]? with
  | none => rfl
  | some a => rw [Option.map_some, List.map_insertIdx, List.eraseIdx_map]

theorem moved_perm {α : Type} {l : List α} {place target : Nat} (h : target < l.length) :
    (moved l place target).Perm l := by
  rw [moved]
  cases hitem : l[place]? with
  | none => exact .refl l
  | some a =>
    obtain ⟨hplace, rfl⟩ := List.getElem?_eq_some_iff.mp hitem
    refine (List.perm_insertIdx _ _ ?_).trans (List.getElem_cons_eraseIdx_perm hplace)
    rw [List.length_eraseIdx_of_lt hplace]
    omega

theorem destination_lt {place count : Nat} {action : CardAction} (hplace : place < count)
    (hlast : action = .down → place + 1 ≠ count) :
    destination place (count - 1) action < count := by
  cases action with
  | down =>
    have := hlast rfl
    simp only [destination]
    omega
  | _ => simp only [destination]; omega

theorem Laid.moved (h : Laid p shown) (place : Nat) {target : Nat}
    (htarget : target < p.cards.items.length) :
    ∃ shown', Laid { p with cards := { p.cards with items := moved p.cards.items place target } }
      shown' ∧ shown'.Perm shown := by
  have hlt : target < shown.length := by
    rw [h.cards] at htarget
    simpa [Lineup.ofList] using htarget
  have hperm : (PromptsPage.moved shown place target).Perm shown := moved_perm hlt
  have hcards : ({ p.cards with
      items := PromptsPage.moved p.cards.items place target } : Lineup Card) =
      .ofList ((PromptsPage.moved shown place target).map Prod.fst) := by
    rw [h.cards]
    simp only [Lineup.ofList, List.map_map, moved_map]
  have hlaid := h.of_subset hperm.subset ((hperm.map _).nodup_iff.mpr h.ids)
  rw [← hcards] at hlaid
  exact ⟨_, hlaid, hperm⟩

theorem Laid.map_title (h : Laid p shown) : (shown.map Prod.fst).map Card.title =
    ((shown.map Prod.snd).map Prompt.title).map Cell.toValue := by
  rw [List.map_map, List.map_map, List.map_map]
  exact List.map_congr_left fun entry hentry => (h.shows entry hentry).title

theorem titles_ofList (cards : List Card) :
    titles (.ofList cards) = .ok (cards.map Card.title) := by
  have hitems : (cards.map Item.own).mapM titleOf = .ok (cards.map Card.title) := by
    induction cards with
    | nil => rfl
    | cons c cards ih =>
      rw [List.map_cons, List.mapM_cons, ih]
      rfl
  exact hitems

end PromptsPage

end PromptStudio
