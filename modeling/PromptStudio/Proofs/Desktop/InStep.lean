import PromptStudio.Proofs.Bench.Texts
import PromptStudio.Proofs.Desktop.Cards
import PromptStudio.Studio.Inspect

/-!
# Cards in step with the store

The page of prompts shows a card for every prompt of the store. Whatever is done on the page, the
cards from top to bottom have the titles of the store in their order, and each shows the content of
its prompt. A step changes the cards and the rows of the store in the same way, or neither of them.
-/

namespace PromptStudio.PromptsPage

open Database Texts
open Step (get_bind bind_of_ok bind_of_error)

variable {settings : List Setting} {rows rows' : List Prompt} {n : Nat} {d d' : Desk}
  {p : PromptsPage} {shown : List (Card × Prompt)} {b : Bench}

/-- The store has prompts that are known by their titles, and texts can be looked up. -/
structure Stocked (settings : List Setting) (rows : List Prompt) (b : Bench) : Prop where
  store : b.store = some (.tables ⟨some settings, some rows, true⟩)
  titled : Titled rows
  ready : Ready settings b

theorem Stocked.holding (h : Stocked settings rows b) (htitled : Titled rows') :
    Stocked settings rows' (b.holding ⟨some settings, some rows', true⟩) :=
  ⟨rfl, htitled, h.ready.congr rfl rfl rfl rfl⟩

/-- The cards of a page are those of the prompts in the store, in their order. -/
def Synced (settings : List Setting) (n : Nat) (d : Desk) : Prop :=
  ∃ rows p shown, Stocked settings rows d.bench ∧ d.promptPages[n]? = some p ∧ Laid p shown ∧
    shown.map Prod.snd = inOrder rows

/-! ### Steps on a page -/

theorem numbered_apply (h : d.promptPages[n]? = some p) : numbered n d = (.ok p, d) := by
  rw [numbered, get_bind, h]
  rfl

/-- The desk with a page changed. -/
def deskWith (n : Nat) (f : PromptsPage → PromptsPage) (d : Desk) : Desk :=
  { d with promptPages := d.promptPages.modify n f }

/-- The desk with other prompts in the store. -/
def restocked (settings : List Setting) (rows : List Prompt) (d : Desk) : Desk :=
  { d with bench := d.bench.holding ⟨some settings, some rows, true⟩ }

theorem page_deskWith (h : d.promptPages[n]? = some p) (f : PromptsPage → PromptsPage) :
    (deskWith n f d).promptPages[n]? = some (f p) := by
  simp [deskWith, h]

/-! ### Other pages that show prompts -/

section

variable (h : Stocked settings rows d.bench)
include h

theorem refresh_apply (r : PromptReader) :
    ∃ d', r.refresh d = (.ok (), d') ∧ d'.promptPages = d.promptPages ∧ d'.bench = d.bench := by
  have htitles : onBench Store.titles d =
      (.ok (((inOrder rows).map Prompt.title).map Cell.toValue), d) := by
    rw [onBench_apply, Store.titles_apply h.store rfl]
  cases r with
  | edit n => exact ⟨_, bind_of_ok htitles, rfl, rfl⟩
  | chat n => exact ⟨_, bind_of_ok htitles, rfl, rfl⟩

theorem forM_refresh_apply (readers : List PromptReader) :
    ∃ d', readers.forM PromptReader.refresh d = (.ok (), d') ∧ d'.promptPages = d.promptPages ∧
      d'.bench = d.bench := by
  induction readers generalizing d with
  | nil => exact ⟨d, rfl, rfl, rfl⟩
  | cons r readers ih =>
    obtain ⟨d₁, hfirst, hpages, hbench⟩ := refresh_apply h r
    obtain ⟨d₂, hrest, hpages', hbench'⟩ := ih (hbench ▸ h)
    exact ⟨d₂, (bind_of_ok hfirst).trans hrest, hpages'.trans hpages, hbench'.trans hbench⟩

theorem tellAll_apply (window : Nat) :
    ∃ d', PromptReader.tellAll window d = (.ok (), d') ∧ d'.promptPages = d.promptPages ∧
      Stocked settings rows d'.bench := by
  have hrecord : Stocked settings rows (d.bench.record (.broadcast "prompts_updated")) :=
    ⟨h.store, h.titled, h.ready.congr h.store rfl rfl rfl⟩
  obtain ⟨d', hreaders, hpages, hbench⟩ :=
    forM_refresh_apply (d := { d with bench := d.bench.record (.broadcast "prompts_updated") })
      hrecord (d.window window).readers
  exact ⟨d', hreaders, hpages, hbench ▸ hrecord⟩

theorem Stocked.told (htitled : Titled rows') (hpage : d.promptPages[n]? = some p) :
    ∃ d', numbered n (restocked settings rows' d) = (.ok p, restocked settings rows' d) ∧
      PromptReader.tellAll p.window (restocked settings rows' d) = (.ok (), d') ∧
      d'.promptPages[n]? = some p ∧ Stocked settings rows' d'.bench := by
  obtain ⟨d', htell, hpages, hstock⟩ :=
    tellAll_apply (d := restocked settings rows' d) (h.holding htitled) p.window
  have hpage₁ : (restocked settings rows' d).promptPages[n]? = some p := hpage
  exact ⟨d', numbered_apply hpage₁, htell, hpages ▸ hpage₁, hstock⟩

end

/-! ### Showing all prompts -/

theorem says_makeCard (n id : Nat) {row : Prompt} (htitle : row.title.toValue.Written)
    (hcontent : row.content.toValue.Written) :
    Says settings (makeCard n id row.title.toValue row.content.toValue) fun c =>
      c.id = id ∧ c.Shows row := by
  rw [makeCard]
  refine .bind (says_say _) fun titleLabel _ => .bind (says_say _) fun contentLabel _ =>
    .bind (says_sayOr _ _) fun top _ => .bind (says_say _) fun up _ =>
    .bind (says_say _) fun down _ => .bind (says_sayOr _ _) fun bottom _ =>
    .bind (says_say _) fun edit _ => .bind (says_say _) fun delete _ =>
    .bind (says_say _) fun save _ => .bind (says_say _) fun cancel _ => .pure ⟨rfl, ?_⟩
  exact ⟨rfl, rfl, rfl, ⟨_, _, rfl⟩, ⟨_, _, rfl⟩, Scene.written_pair htitle hcontent⟩

/-- Cards are added below those that are there. -/
theorem addCards_apply (hstock : Stocked settings rows d.bench) (hpage : d.promptPages[n]? = some p)
    (hlaid : Laid p shown) (prompts : List Prompt)
    (hwritten : ∀ row ∈ prompts, row.title.toValue.Written ∧ row.content.toValue.Written) :
    ∃ d' p' shown', addCards n prompts d = (.ok (), d') ∧ Stocked settings rows d'.bench ∧
      d'.promptPages[n]? = some p' ∧ Laid p' shown' ∧
      shown'.map Prod.snd = shown.map Prod.snd ++ prompts := by
  -- Looking texts up changes the workbench, so the desk varies along with the page.
  induction prompts generalizing d p shown with
  | nil => exact ⟨d, p, shown, rfl, hstock, hpage, hlaid, by simp⟩
  | cons row prompts ih =>
    obtain ⟨htitle, hcontent⟩ := hwritten row List.mem_cons_self
    obtain ⟨c, b, hmake, ⟨hid, hshows⟩, hretold, hready⟩ :=
      says_makeCard n p.nextCard htitle hcontent d.bench hstock.ready
    have hcard : onBench (makeCard n p.nextCard row.title.toValue row.content.toValue) d =
        (.ok c, { d with bench := b }) := by rw [onBench_apply, hmake]
    have hpush : p.cards.push c = .ok (.ofList ((shown ++ [(c, row)]).map Prod.fst)) := by
      rw [hlaid.cards]
      simp [Lineup.push, Lineup.ofList]
    have hstock' : Stocked settings rows b :=
      ⟨hretold.store_eq.trans hstock.store, hstock.titled, hready⟩
    obtain ⟨d', p', shown', hrest, hresult⟩ := ih (d := deskWith n (fun p' => { p' with
        cards := .ofList ((shown ++ [(c, row)]).map Prod.fst)
        nextCard := p.nextCard + 1 }) { d with bench := b })
      hstock' (page_deskWith (d := { d with bench := b }) hpage _) (hlaid.concat hid hshows)
      fun row hrow => hwritten row (List.mem_cons_of_mem _ hrow)
    refine ⟨d', p', shown', ?_, by simpa using hresult⟩
    rw [addCards, bind_of_ok (numbered_apply hpage)]
    refine (bind_of_ok hcard).trans ?_
    have hagain : numbered n { d with bench := b } = (.ok p, { d with bench := b }) :=
      numbered_apply hpage
    rw [bind_of_ok hagain, hpush]
    exact hrest

/-- Showing the prompts of the store brings the cards in step with it. -/
theorem load_apply (hstock : Stocked settings rows d.bench) (hpage : d.promptPages[n]? = some p)
    (hinstead : p.cards.instead = none) (hfields : p.scene.Written fields) :
    ∃ d', load n d = (.ok (), d') ∧ Synced settings n d' := by
  have hprompts : onBench Store.prompts d = (.ok (inOrder rows), d) := by
    rw [onBench_apply, Store.prompts_apply hstock.store]
    rfl
  have hcleared : p.cards.cleared = .ok (.ofList []) := by
    rw [Lineup.cleared, hinstead]
    rfl
  have hlaid : Laid { p with cards := .ofList [] } [] :=
    ⟨rfl, List.nodup_nil, by simp, by simp, hfields⟩
  have hwritten : ∀ row ∈ inOrder rows,
      row.title.toValue.Written ∧ row.content.toValue.Written := by
    intro row hrow
    have hmem := (inOrder_perm rows).mem_iff.mp hrow
    obtain ⟨t, ht⟩ := hstock.titled.text row hmem
    exact ⟨.inr ⟨t, by rw [ht]; rfl⟩, (hstock.titled.content row hmem).written⟩
  obtain ⟨d', p', shown, hadd, hstock', hpage', hlaid', horder⟩ :=
    addCards_apply (d := deskWith n (fun p => { p with cards := .ofList [] }) d) hstock
      (page_deskWith hpage _) hlaid (inOrder rows) hwritten
  refine ⟨d', ?_, rows, p', shown, hstock', hpage', hlaid', by simpa using horder⟩
  refine (bind_of_ok hprompts).trans ?_
  rw [bind_of_ok (numbered_apply hpage), hcleared]
  exact hadd

/-! ### Changes of single cards -/

section

variable (h : Synced settings n d)
include h

theorem Synced.deskWith {f : PromptsPage → PromptsPage}
    (hf : ∀ p shown, Laid p shown → ∃ shown', Laid (f p) shown' ∧ shown'.map Prod.snd = shown.map Prod.snd) :
    Synced settings n (deskWith n f d) := by
  obtain ⟨rows, p, shown, hstock, hpage, hlaid, horder⟩ := h
  obtain ⟨shown', hlaid', hsame⟩ := hf p shown hlaid
  exact ⟨rows, f p, shown', hstock, page_deskWith hpage f, hlaid', hsame.trans horder⟩

theorem Synced.withCard (id : Nat) {f : Card → Card} (hid : ∀ c, (f c).id = c.id)
    (hf : ∀ {c : Card} {row}, c.Shows row → (f c).Shows row) :
    Synced settings n (PromptsPage.deskWith n (·.withCard id f) d) := by
  refine h.deskWith fun p shown hlaid => ⟨_, hlaid.withCard (g := fun row => row) hid ?_, ?_⟩
  · intro entry hentry
    split
    · exact hf (hlaid.shows entry hentry)
    · exact hlaid.shows entry hentry
  · simp

theorem Synced.typed (field t : String) :
    Synced settings n (d.setAt ⟨.prompts n, field, [], default⟩ "value" (.text t)) := by
  refine h.deskWith (f := fun p => p.changed n field ⟨[], "value", .text t⟩) fun p shown hlaid =>
    ⟨shown, ?_, rfl⟩
  have hchanged : p.changed n field ⟨[], "value", .text t⟩ =
      { p with scene := Change.onScene ⟨[], "value", .text t⟩ field p.scene } := by
    simp [changed, Change.concerns]
  rw [hchanged]
  refine ⟨hlaid.cards, hlaid.ids, hlaid.known, hlaid.shows, ?_⟩
  rcases Change.onScene_cases "value" field (.text t) p.scene with heq | heq <;> simp only [heq]
  · exact hlaid.fields.setValue field t
  · exact hlaid.fields

end

/-! ### Changes of prompts -/

section

variable (h : Synced settings n d)
include h

theorem synced_ite {cond : Prop} [Decidable cond] {x : DeskStep Unit}
    (hx : cond → Synced settings n (x d).2) :
    Synced settings n ((if cond then x else pure ()) d).2 := by
  split
  · exact hx ‹_›
  · exact h

/-- Saving what was edited on a card keeps the cards in step, also if it is refused. -/
theorem synced_save (id : Nat) : Synced settings n (save n id d).2 := by
  have hsame := h
  obtain ⟨rows, p, shown, hstock, hpage, hlaid, horder⟩ := h
  rw [save, bind_of_ok (numbered_apply hpage)]
  rcases hlaid.card?_cases id with hnone | ⟨entry, hentry, rfl, hsome⟩
  · rw [hnone]
    exact hsame
  rw [hsome]
  dsimp only
  have hshows := hlaid.shows entry hentry
  refine synced_ite hsame fun htruthy => ?_
  obtain ⟨htitle, hcontent⟩ := Bool.and_eq_true_iff.mp htruthy
  obtain ⟨t, -, ht⟩ := (hshows.fields _ (by decide)).exists_text htitle
  obtain ⟨s, -, hs⟩ := (hshows.fields _ (by decide)).exists_text hcontent
  obtain ⟨o, ho⟩ := hstock.titled.text _ (mem_rows horder hentry)
  have hsaved := hshows.savedTitle_eq ho
  rw [ht, hs, hsaved, liftM_bench]
  have hupdate := Store.updatePrompt_text_apply hstock.store o t s
  cases hdatabase : Database.updatePrompt ⟨some settings, some rows, true⟩ (.text o) (.text t)
      (.text s) with
  | error fault =>
    rw [hdatabase] at hupdate
    have hrefused : onBench (Store.updatePrompt (.text o) (.text t) (.text s)) d =
        (.error (.store fault), d) := by rw [onBench_apply, hupdate]
    rw [bind_of_error hrefused]
    exact hsame
  | ok database =>
    obtain ⟨rfl, htitled, hrows⟩ :=
      hstock.titled.updatePrompt (mem_rows horder hentry) ho hdatabase
    obtain ⟨shown', hlaid', hshown⟩ := hlaid.renamed hstock.titled horder hentry ho t s
    have hdone : onBench (Store.updatePrompt (.text o) (.text t) (.text s)) d =
        (.ok (), restocked settings (rows.map (Prompt.renamed o t s)) d) := by
      rw [onBench_apply, hupdate, hdatabase]
      rfl
    obtain ⟨d₂, hpage₁, htell, hpage₂, hstock₂⟩ := hstock.told (d := deskWith n _ d) htitled
      (page_deskWith hpage (·.withCard entry.1.id (Card.retitled t)))
    rw [bind_of_ok hdone]
    -- The card has its new title before the other pages are told, and takes over the rest after.
    change Synced settings n ((numbered n >>= fun p => PromptReader.tellAll p.window >>= fun _ =>
      changeCard n entry.1.id (Card.rewritten t s) >>= fun _ =>
      changeCard n entry.1.id Card.displayed) (restocked settings (rows.map (Prompt.renamed o t s))
        (deskWith n (·.withCard entry.1.id (Card.retitled t)) d))).2
    rw [bind_of_ok hpage₁, bind_of_ok htell]
    refine ⟨_, _, shown', hstock₂, page_deskWith (page_deskWith hpage₂ _) _, ?_, ?_⟩
    · rw [withCard_withCard (f := Card.rewritten t s) fun _ => rfl,
        withCard_withCard (f := Card.retitled t) fun _ => rfl]
      exact hlaid'
    · rw [hshown, horder, hrows]

/-- Deleting the prompt of a card keeps the cards in step. -/
theorem synced_delete (id : Nat) : Synced settings n (delete n id d).2 := by
  have hsame := h
  obtain ⟨rows, p, shown, hstock, hpage, hlaid, horder⟩ := h
  rw [delete, bind_of_ok (numbered_apply hpage)]
  rcases hlaid.card?_cases id with hnone | ⟨entry, hentry, rfl, hsome⟩
  · rw [hnone]
    exact hsame
  rw [hsome]
  dsimp only
  obtain ⟨o, ho⟩ := hstock.titled.text _ (mem_rows horder hentry)
  have hsaved := (hlaid.shows entry hentry).savedTitle_eq ho
  obtain ⟨htitled, hrows⟩ := hstock.titled.filter fun row => !row.title.collides (.text o)
  obtain ⟨d₂, hpage₁, htell, hpage₂, hstock₂⟩ := hstock.told htitled hpage
  have hdeleted : onBench (Store.deletePrompt (.text o)) d = (.ok (), restocked settings
      (rows.filter fun row => !row.title.collides (.text o)) d) := by
    rw [onBench_apply, Store.deletePrompt_text_apply hstock.store]
    rfl
  rw [hsaved, deleteTitled, liftM_bench, bind_of_ok hdeleted, bind_of_ok hpage₁,
    bind_of_ok htell, bind_of_ok (numbered_apply hpage₂)]
  have hknown : p.cards.items.any (isCard entry.1.id) = true := by
    rw [hlaid.cards]
    simp only [Lineup.ofList, List.map_map, List.any_map, List.any_eq_true]
    exact ⟨entry, hentry, by simp [isCard]⟩
  simp only [hknown, hlaid.instead, Bool.not_true, Bool.false_eq_true, if_false]
  obtain ⟨shown', hlaid', hshown⟩ := hlaid.deleted hstock.titled horder hentry ho
  exact ⟨_, _, shown', hstock₂, page_deskWith hpage₂ _, hlaid', by rw [hshown, horder, hrows]⟩

end

/-- The order of the cards becomes that of the prompts. -/
theorem synced_saveOrder (hstock : Stocked settings rows d.bench)
    (hpage : d.promptPages[n]? = some p) (hlaid : Laid p shown)
    (hperm : (shown.map Prod.snd).Perm rows) : Synced settings n (saveOrder n d).2 := by
  obtain ⟨texts, htexts⟩ := (hstock.titled.perm hperm).exists_texts
  have htitles : titles p.cards = .ok (texts.map .text) := by
    rw [hlaid.cards, titles_ofList, hlaid.map_title, htexts, List.map_map]
    rfl
  obtain ⟨htitled, hrows⟩ := hstock.titled.reorder hperm
  rw [htexts] at htitled hrows
  obtain ⟨d₂, hpage₁, htell, hpage₂, hstock₂⟩ := hstock.told htitled hpage
  have hordered : onBench (Store.reorder (.list (texts.map .text))) d =
      (.ok (), restocked settings (placeAll rows 0 (texts.map .text)) d) := by
    rw [onBench_apply, Store.reorder_text_apply hstock.store]
    rfl
  have hread : (orFail ((titles p.cards).mapError .value) : DeskStep (List Value)) d =
      (.ok (texts.map .text), d) := by
    rw [htitles]
    rfl
  rw [saveOrder, bind_of_ok (numbered_apply hpage), bind_of_ok hread, liftM_bench,
    bind_of_ok hordered, bind_of_ok hpage₁, htell]
  -- The cards stay as they are, and their prompts now have the places that the cards are at.
  refine ⟨_, p, shown.mapIdx fun i entry => (entry.1, { entry.2 with place := .int i }), hstock₂,
    hpage₂, ?_, ?_⟩
  · exact hlaid.placed
  · rw [hrows]
    exact List.ext_getElem (by simp) (by simp)

theorem synced_move (h : Synced settings n d) (id : Nat) (action : CardAction) :
    Synced settings n (move n id action d).2 := by
  have hsame := h
  obtain ⟨rows, p, shown, hstock, hpage, hlaid, horder⟩ := h
  rw [move, bind_of_ok (numbered_apply hpage)]
  dsimp only
  cases hplace : p.cards.items.findIdx? (isCard id) with
  | none => exact hsame
  | some place =>
    refine synced_ite hsame fun hstays => ?_
    have htarget : destination place (p.cards.items.length - 1) action < p.cards.items.length := by
      obtain ⟨hlt, -⟩ := List.findIdx?_eq_some_iff_getElem.mp hplace
      refine destination_lt hlt ?_
      rintro rfl
      simpa using hstays
    obtain ⟨shown', hlaid', hperm⟩ := hlaid.moved place htarget
    refine synced_saveOrder hstock (page_deskWith hpage _) hlaid' ?_
    exact ((hperm.map _).trans (.of_eq horder)).trans (inOrder_perm rows)

theorem savePrompt_cases (hstore : b.store = some (.tables ⟨some settings, some rows, true⟩))
    {t s : String} (ht : t ≠ "") (hs : s ≠ "") :
    (∃ fault, Store.savePrompt (.text t) (.text s) b = (.error fault, b)) ∨
      ∃ place, place ≠ .real .nan ∧ Store.savePrompt (.text t) (.text s) b = (.ok true, b.holding
        ⟨some settings, some (replacePrompt rows (.text t) (.text s) place), true⟩) := by
  rw [Store.savePrompt_apply hstore ht hs]
  cases Store.nextPlace (greatestPlace rows) with
  | error fault => exact .inl ⟨_, rfl⟩
  | ok next =>
    dsimp only
    cases hplace : Cell.ofValue 3 next with
    | error fault => exact .inl ⟨_, rfl⟩
    | ok place => exact .inr ⟨place, Cell.ne_nan_of_ofValue hplace, rfl⟩

/-- Saving a new prompt keeps the cards in step, also if it is refused. -/
theorem synced_add (h : Synced settings n d) : Synced settings n (add n d).2 := by
  have hsame := h
  obtain ⟨rows, p, shown, hstock, hpage, hlaid, horder⟩ := h
  rw [add, bind_of_ok (numbered_apply hpage)]
  dsimp only
  refine synced_ite hsame fun htruthy => ?_
  obtain ⟨htitle, hcontent⟩ := Bool.and_eq_true_iff.mp htruthy
  obtain ⟨t, htne, ht⟩ := (hlaid.fields _ (by decide)).exists_text htitle
  obtain ⟨s, hsne, hs⟩ := (hlaid.fields _ (by decide)).exists_text hcontent
  rw [ht, hs, liftM_bench]
  rcases savePrompt_cases hstock.store htne hsne with ⟨fault, hsave⟩ | ⟨place, hplace, hsave⟩
  · have hrefused : onBench (Store.savePrompt (.text t) (.text s)) d = (.error fault, d) := by
      rw [onBench_apply, hsave]
    rw [bind_of_error hrefused]
    exact hsame
  · obtain ⟨d₂, hpage₁, htell, hpage₂, hstock₂⟩ :=
      hstock.told (hstock.titled.replacePrompt t s hplace) hpage
    have hsaved : onBench (Store.savePrompt (.text t) (.text s)) d =
        (.ok true, restocked settings (replacePrompt rows (.text t) (.text s) place) d) := by
      rw [onBench_apply, hsave]
      rfl
    rw [bind_of_ok hsaved, bind_of_ok hpage₁, bind_of_ok htell]
    -- All cards are made anew, so it does not matter where among them the new one is.
    let blank (field : String) (d : Desk) : Desk :=
      deskWith n (fun p => { p with scene := p.scene.setValue field (.text "") }) d
    let d₃ := blank "newPromptContentField" (blank "newPromptTitleField" d₂)
    obtain ⟨d₄, hload, hsynced⟩ := load_apply (d := d₃) hstock₂
      (page_deskWith (page_deskWith hpage₂ _) _) hlaid.instead
      ((hlaid.fields.setValue _ "").setValue _ "")
    change Synced settings n (load n d₃).2
    rw [hload]
    exact hsynced

/-! ### A new page -/

theorem bind_of_says {α γ : Type} {x : BenchStep α} {f : α → DeskStep γ} {P : α → Prop}
    {R : Except Fault γ × Desk → Prop} (hx : Says settings x P) (hready : Ready settings d.bench)
    (hf : ∀ a b, Retold d.bench b → Ready settings b → R (f a { d with bench := b })) :
    R ((onBench x >>= f) d) := by
  obtain ⟨a, b, hstep, -, hretold, hready'⟩ := hx d.bench hready
  have hlifted : onBench x d = (.ok a, { d with bench := b }) := by rw [onBench_apply, hstep]
  rw [bind_of_ok hlifted]
  exact hf a b hretold hready'

/-- The result of making a page on a desk: a page without cards, whose fields are empty. -/
def Fresh (settings : List Setting) (d : Desk) (result : Except Fault Nat × Desk) : Prop :=
  ∃ b p, result = (.ok d.promptPages.length,
      { d with bench := b, promptPages := d.promptPages ++ [p] }) ∧
    b.store = d.bench.store ∧ Ready settings b ∧ p.cards = {} ∧ p.scene.Written fields

theorem fresh_make (hready : Ready settings d.bench) : Fresh settings d (make d) := by
  rw [make, get_bind]
  refine bind_of_says (says_sayOr _ _) hready fun titleLabel b₁ h₁ hready₁ => ?_
  refine bind_of_says (says_sayOr _ _) hready₁ fun contentLabel b₂ h₂ hready₂ => ?_
  refine bind_of_says (says_sayOr _ _) hready₂ fun addTitle b₃ h₃ hready₃ => ?_
  refine bind_of_says (says_sayOr _ _) hready₃ fun addText b₄ h₄ hready₄ => ?_
  refine bind_of_says (says_sayOr _ _) hready₄ fun existing b₅ h₅ hready₅ => ?_
  have hretold : Retold d.bench b₅ := (((h₁.trans h₂).trans h₃).trans h₄).trans h₅
  exact ⟨b₅, _, rfl, hretold.store_eq, hready₅, rfl,
    Scene.written_pair (.inr ⟨"", rfl⟩) (.inr ⟨"", rfl⟩)⟩

theorem ready_of_make (hstore : d.bench.store = some (.tables ⟨some settings, some rows, true⟩))
    (h : make d = (.ok n, d')) : Ready settings d.bench := by
  cases hfirst : sayOr "prompt_manager_new_prompt_title_label" "New Prompt Title" d.bench with
  | mk result b =>
    cases result with
    | ok v => exact ready_of_lookup hstore hfirst
    | error fault =>
      have hfault : onBench (sayOr "prompt_manager_new_prompt_title_label" "New Prompt Title") d =
          (.error fault, { d with bench := b }) := by rw [onBench_apply, hfirst]
      have hmake : make d = (.error fault, { d with bench := b }) := by
        rw [make, get_bind, liftM_bench, bind_of_error hfault]
      rw [hmake] at h
      cases h

/-! ### Everything that is done on a page -/

/-- What is done on a page: something is typed into a field for a new prompt or into a field of a
card, the new prompt is saved, all prompts are shown again, or a card is asked to do something. -/
inductive Gesture where
  | enter (field text : String)
  | edit (id : Nat) (field : { name // name ∈ Card.fields }) (text : String)
  | add
  | load
  | ask (id : Nat) (action : CardAction)

/-- The desk after a gesture. A fault ends it where it arises. -/
def Gesture.after (n : Nat) (d : Desk) : Gesture → Desk
  | enter field text => d.setAt ⟨.prompts n, field, [], default⟩ "value" (.text text)
  | edit id field text => d.setAt ⟨.card n id, field, [], default⟩ "value" (.text text)
  | add => (PromptsPage.add n d).2
  | load => (PromptsPage.load n d).2
  | ask id action => (performCard n id action d).2

theorem Synced.after (h : Synced settings n d) (g : Gesture) : Synced settings n (g.after n d) := by
  cases g with
  | enter field text => exact h.typed field text
  | edit id field text => exact h.withCard id (fun _ => rfl) fun hshows => hshows.typed field.2 text
  | add => exact synced_add h
  | load =>
    obtain ⟨rows, p, shown, hstock, hpage, hlaid, -⟩ := h
    obtain ⟨d', hload, hsynced⟩ := load_apply hstock hpage hlaid.instead hlaid.fields
    rw [Gesture.after, hload]
    exact hsynced
  | ask id action =>
    cases action with
    | display => exact h.withCard id (fun _ => rfl) Card.Shows.displayed
    | edit => exact h.withCard id (fun _ => rfl) Card.Shows.opened
    | save => exact synced_save h id
    | delete => exact synced_delete h id
    | toTop => exact synced_move h id .toTop
    | toBottom => exact synced_move h id .toBottom
    | up => exact synced_move h id .up
    | down => exact synced_move h id .down

theorem Synced.run (h : Synced settings n d) (gestures : List Gesture) :
    Synced settings n (gestures.foldl (Gesture.after n) d) := by
  induction gestures generalizing d with
  | nil => exact h
  | cons g gestures ih => exact ih (h.after g)

/-- The page and the store show the same prompts: the titles of the cards, from top to bottom, are
those of the store in their order, and each card renames its prompt from that title and shows its
content. -/
def InStep (n : Nat) (d : Desk) : Prop :=
  ∃ p cards, d.promptPages[n]? = some p ∧ p.cards = .ofList cards ∧
    Store.titles d.bench = (.ok (cards.map Card.title), d.bench) ∧
    ∀ c ∈ cards, c.savedTitle = c.title ∧
      Store.content c.title d.bench = (.ok (c.scene.value "displayContent"), d.bench)

theorem Synced.inStep (h : Synced settings n d) : InStep n d := by
  obtain ⟨rows, p, shown, hstock, hpage, hlaid, horder⟩ := h
  refine ⟨p, shown.map Prod.fst, hpage, hlaid.cards, ?_, ?_⟩
  · rw [hlaid.map_title, horder]
    exact Store.titles_apply hstock.store rfl
  · simp only [List.forall_mem_map]
    intro entry hentry
    have hshows := hlaid.shows entry hentry
    refine ⟨hshows.saved.trans hshows.title.symm, ?_⟩
    obtain ⟨t, ht⟩ := hstock.titled.text _ (mem_rows horder hentry)
    have hfind := hstock.titled.find?_eq (mem_rows horder hentry) ht
    rw [Store.content_apply hstock.store rfl, hshows.title, hshows.content, ht]
    simp [Cell.toValue, Cell.ofValue, hfind]

/-- Starting from a new page that shows the prompts of a store with titles for all of them, the page
stays in step with the store, whatever is done on it. -/
theorem inStep_after_gestures {d₀ : Desk} (hmade : make d₀ = (.ok n, d))
    (hstore : d₀.bench.store = some (.tables ⟨some settings, some rows, true⟩))
    (hsound : Sound settings rows) (htitles : ∀ row ∈ rows, row.title ≠ .null) :
    ∃ d', load n d = (.ok (), d') ∧
      ∀ gestures : List Gesture, InStep n (gestures.foldl (Gesture.after n) d') := by
  obtain ⟨b, p, hmake, hstore', hready, hcards, hfields⟩ := fresh_make (ready_of_make hstore hmade)
  obtain ⟨hn, rfl⟩ := Prod.mk.inj (hmade.symm.trans hmake)
  cases hn
  have hstock : Stocked settings rows b := ⟨hstore'.trans hstore, hsound.titled htitles, hready⟩
  obtain ⟨d', hload, hsynced⟩ := load_apply
    (d := { d₀ with bench := b, promptPages := d₀.promptPages ++ [p] }) hstock
    List.getElem?_concat_length (by rw [hcards]) hfields
  exact ⟨d', hload, fun gestures => (hsynced.run gestures).inStep⟩

/-- Prompts at equal places, at a half and at a text; one has no content. -/
def shelvedPrompts : List Prompt :=
  [⟨.text "b", .text "first", .int 2⟩, ⟨.text "a", .null, .int 2⟩,
    ⟨.text "c", .text "half", .real (.finite false (twoTo 52) (-53))⟩,
    ⟨.text "d", .text "later", .text "soon"⟩]

/-- A desk whose store has these prompts, with texts at hand. -/
def shelvedDesk : Desk :=
  { bench := { (default : Bench) with
      store := some (.tables ⟨some [], some shelvedPrompts, true⟩)
      catalog := { table := .object [("app_title", .text "Studio")] } } }

/-- The first card is moved to the end, the second one is to be given a title that is taken and is
then given another one, a third one is deleted, and a prompt is added and moved up. -/
def shelvedGestures : List Gesture :=
  [.ask 0 .toBottom, .edit 1 ⟨"editTitleField", by decide⟩ "d", .ask 1 .save,
    .edit 1 ⟨"editTitleField", by decide⟩ "e", .ask 1 .save, .ask 2 .delete,
    .enter "newPromptTitleField" "f", .enter "newPromptContentField" "new", .add, .ask 7 .up]

theorem inStep_after_gestures_shelved :
    Sound [] shelvedPrompts ∧ (make shelvedDesk).1 = .ok 0 ∧
      ∃ d', load 0 (make shelvedDesk).2 = (.ok (), d') ∧
        InStep 0 (shelvedGestures.foldl (Gesture.after 0) d') := by
  have hsound : Sound [] shelvedPrompts :=
    ⟨by decide, by decide +kernel, by decide, by decide⟩
  have hmade : (make shelvedDesk).1 = .ok 0 := by rfl
  obtain ⟨d', hload, hrun⟩ := inStep_after_gestures (Prod.ext hmade rfl) rfl hsound (by decide)
  exact ⟨hsound, hmade, d', hload, hrun shelvedGestures⟩

end PromptStudio.PromptsPage
