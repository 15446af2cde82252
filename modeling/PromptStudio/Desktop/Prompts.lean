import PromptStudio.Desktop.PromptBox

/-!
# The page of prompts

Every prompt has a card, on which it can be edited, moved and deleted. The order of the cards is the
order of the prompts in the store.
-/

namespace PromptStudio.PromptsPage

def numbered (n : Nat) : DeskStep PromptsPage := do pure ((← get).promptPages[n]?.getD default)

def change (n : Nat) (f : PromptsPage → PromptsPage) : DeskStep Unit :=
  modify fun d => { d with promptPages := d.promptPages.modify n f }

def card? (p : PromptsPage) (id : Nat) : Option Card := p.cards.owned.find? fun c => c.id = id

def withCard (p : PromptsPage) (id : Nat) (f : Card → Card) : PromptsPage :=
  { p with cards := p.cards.map fun c => if c.id = id then f c else c }

def changeCard (n id : Nat) (f : Card → Card) : DeskStep Unit := change n (·.withCard id f)

/-- A small button of a card. -/
def cardButton (icon : String) (tip : Value) (action : Action) (props : List (String × Node)) : Node :=
  .iconButton icon ([("icon_size", .int 20), ("tooltip", .value tip), ("on_click", .action action)] ++
    props)

/-- Makes the card of a prompt. -/
def makeCard (n id : Nat) (title content : Value) : BenchStep Card := do
  let slot := Node.slot (.card n id)
  let act (a : CardAction) := Action.card n id a
  let titleLabel ← Texts.say "home_control_prompt_save_label"
  let contentLabel ← Texts.say "home_control_prompt_input_placeholder"
  let top ← Texts.sayOr "prompt_manager_move_top" "Move to Top"
  let up ← Texts.say "prompt_manager_move_up"
  let down ← Texts.say "prompt_manager_move_down"
  let bottom ← Texts.sayOr "prompt_manager_move_bottom" "Move to Bottom"
  let edit ← Texts.say "prompt_manager_edit"
  let delete ← Texts.say "prompt_manager_delete"
  let save ← Texts.say "prompt_manager_save"
  let cancel ← Texts.say "prompt_manager_cancel"
  let buttons : List Node := [
    cardButton "VERTICAL_ALIGN_TOP" top (act .toTop) [],
    cardButton "ARROW_UPWARD" up (act .up) [],
    cardButton "ARROW_DOWNWARD" down (act .down) [],
    cardButton "VERTICAL_ALIGN_BOTTOM" bottom (act .toBottom) [],
    cardButton "EDIT" edit (act .edit) [],
    cardButton "DELETE_OUTLINE" delete (act .delete) [("icon_color", .text "Colors.RED_400")]]
  let scene : Scene := ⟨[
    ("displayTitle", .boldLabel title 16),
    ("displayContent", .label content [("italic", .bool true), ("color", .text "Colors.GREY_700"),
      ("max_lines", .int 2), ("overflow", .text "TextOverflow.ELLIPSIS")]),
    ("editTitleField", .control "TextField" [("label", .value titleLabel), ("value", .value title),
      ("expand", .bool true)]),
    ("editContentField", .control "TextField" [("label", .value contentLabel),
      ("value", .value content), ("multiline", .bool true), ("min_lines", .int 3),
      ("max_lines", .int 10), ("expand", .bool true)]),
    ("displayView", .control "ListTile" [
      ("leading", .icon "NOTES" [("color", .text "Colors.BLUE_400")]),
      ("title", slot "displayTitle"), ("subtitle", slot "displayContent"),
      ("on_click", .action (act .edit)),
      ("trailing", .row buttons [("tight", .bool true), ("spacing", .int 0)])]),
    ("editView", .container
      (.column [
        slot "editTitleField",
        slot "editContentField",
        .row [
            .control "ElevatedButton" [("content", .label save []), ("icon", .text "Icons.SAVE"),
              ("on_click", .action (act .save)), ("style", .buttonStyle "Colors.BLUE_600")],
            (Node.textButton cancel (act .display)).set "icon" (.text "Icons.CANCEL")]
          [("alignment", .text "MainAxisAlignment.END")]] [("spacing", .int 10)])
      [("padding", .int 15), ("visible", .bool false)]),
    ("card", .control "Card" [
      ("content", .container
        (.column [slot "displayView", slot "editView"] [("tight", .bool true)])
        [("padding", .measure "padding.symmetric" [.value (.object [("vertical", .int 5)])])]),
      ("elevation", .int 2), ("prompt_title", .value title)])]⟩
  pure { id, savedTitle := title, scene }

/-- Makes the cards of prompts and shows them one after another. -/
def addCards (n : Nat) : List Prompt → DeskStep Unit
  | [] => pure ()
  | prompt :: rest => do
    let id := (← numbered n).nextCard
    let card ← makeCard n id prompt.title.toValue prompt.content.toValue
    let cards ← orFail ((← numbered n).cards.push card)
    change n fun p => { p with cards, nextCard := id + 1 }
    addCards n rest

def load (n : Nat) : DeskStep Unit := do
  let prompts ← Store.prompts
  let cards ← orFail (← numbered n).cards.cleared
  change n fun p => { p with cards }
  addCards n prompts

/-- Saves a new prompt, if it has a title and a content. -/
def add (n : Nat) : DeskStep Unit := do
  let scene := (← numbered n).scene
  let title := scene.value "newPromptTitleField"
  let content := scene.value "newPromptContentField"
  if title.truthy && content.truthy then
    let _ ← Store.savePrompt title content
    PromptReader.tellAll (← numbered n).window
    let blank (field : String) : DeskStep Unit :=
      change n fun p => { p with scene := p.scene.setValue field (.text "") }
    blank "newPromptTitleField"
    blank "newPromptContentField"
    load n

def titleOf : Item Card → Except ValueFault Value
  | .own c => .ok c.title
  | .other n => do
    match ← n.property "prompt_title" with
    | .value v => .ok v
    | _ => .ok .null

/-- The titles of the cards, from top to bottom. -/
def titles (cards : Lineup Card) : Except ValueFault (List Value) :=
  match cards.instead with
  | none => cards.items.mapM titleOf
  | some v => do (← v.items).mapM fun item => .error (.noField item "prompt_title")

def saveOrder (n : Nat) : DeskStep Unit := do
  let titles ← orFail ((titles (← numbered n).cards).mapError .value)
  Store.reorder (.list titles)
  PromptReader.tellAll (← numbered n).window

/-- Where a card goes among the other cards: the place of the card and their number are known. -/
def destination (place others : Nat) : CardAction → Nat
  | .toTop => 0
  | .up => place - 1
  | .down => place + 1
  | .toBottom => others
  | _ => place

def moved (items : List α) (place target : Nat) : List α :=
  match items[place]? with
  | some item => (items.eraseIdx place).insertIdx target item
  | none => items

def isCard (id : Nat) : Item Card → Bool
  | .own c => c.id = id
  | .other _ => false

/-- Moves a card and saves the order. A card at the end that it is moved to stays, and nothing is
saved. -/
def move (n id : Nat) (action : CardAction) : DeskStep Unit := do
  let items := (← numbered n).cards.items
  match items.findIdx? (isCard id) with
  | none => throw (.refused "Card is not in list")
  | some place =>
    let stays := match action with
      | .toTop | .up => place = 0
      | _ => place + 1 = items.length
    if !stays then
      let target := destination place (items.length - 1) action
      change n fun p => { p with
        cards := { p.cards with items := moved p.cards.items place target } }
      saveOrder n

def display (n id : Nat) : DeskStep Unit :=
  changeCard n id fun c => { c with
    scene := (c.scene.setVisible "editView" false).setVisible "displayView" true }

def edit (n id : Nat) : DeskStep Unit :=
  changeCard n id fun c => { c with
    scene := (c.scene.setVisible "displayView" false).setVisible "editView" true }

/-- Saves what was edited on a card. Without title or content nothing happens. -/
def save (n id : Nat) : DeskStep Unit := do
  match (← numbered n).card? id with
  | none => pure ()
  | some card =>
    let title := card.scene.value "editTitleField"
    let content := card.scene.value "editContentField"
    if title.truthy && content.truthy then
      Store.updatePrompt card.savedTitle title content
      changeCard n id fun c => { c with scene := c.scene.set "card" "prompt_title" (.value title) }
      PromptReader.tellAll (← numbered n).window
      changeCard n id fun c => { c with
        savedTitle := title
        scene := (c.scene.setValue "displayTitle" title).setValue "displayContent" content }
      display n id

/-- Deletes the prompt of a title and takes a card away, which has to be there. -/
def deleteTitled (n : Nat) (title : Value) (card : Option Nat) : DeskStep Unit := do
  Store.deletePrompt title
  PromptReader.tellAll (← numbered n).window
  let cards := (← numbered n).cards
  let known := match card with
    | some id => cards.items.any (isCard id)
    | none => false
  match cards.instead with
  | some v => throw (.value (.noField v "remove"))
  | none =>
    if !known then throw (.value .notInList)
    change n fun p => { p with cards := { p.cards with
      items := p.cards.items.filter fun item => !isCard (card.getD 0) item } }

def delete (n id : Nat) : DeskStep Unit := do
  match (← numbered n).card? id with
  | none => pure ()
  | some card => deleteTitled n card.savedTitle (some id)

def performCard (n id : Nat) : CardAction → DeskStep Unit
  | .display => display n id
  | .edit => edit n id
  | .save => save n id
  | .delete => delete n id
  | action => move n id action

/-- Makes a page. -/
def make : DeskStep Nat := do
  let n := (← get).promptPages.length
  let slot := Node.slot (.prompts n)
  let titleLabel ← Texts.sayOr "prompt_manager_new_prompt_title_label" "New Prompt Title"
  let contentLabel ← Texts.sayOr "prompt_manager_new_prompt_content_label" "New Prompt Content"
  let addTitle ← Texts.sayOr "prompt_manager_add_new_title" "Add New Prompt"
  let addText ← Texts.sayOr "prompt_manager_add_button" "Add Prompt"
  let existing ← Texts.sayOr "prompt_manager_existing_prompts_title" "Existing Prompts"
  let scene : Scene := ⟨[
    ("promptList", .control "ListView" [("expand", .bool true), ("spacing", .int 5),
      ("padding", .int 10)]),
    ("newPromptTitleField", .control "TextField" [("label", .value titleLabel),
      ("border_radius", .int 10)]),
    ("newPromptContentField", .control "TextField" [("label", .value contentLabel),
      ("multiline", .bool true), ("min_lines", .int 3), ("max_lines", .int 5),
      ("border_radius", .int 10)]),
    ("view", .column [
      .control "Card" [("content", .container
        (.column [
          .boldLabel addTitle 18,
          slot "newPromptTitleField",
          slot "newPromptContentField",
          .row [
              .control "ElevatedButton" [("content", .label addText []), ("icon", .text "Icons.ADD"),
                ("on_click", .action (.prompts n .add)), ("style", .buttonStyle "Colors.GREEN_700")]]
            [("alignment", .text "MainAxisAlignment.END")]] [("spacing", .int 15)])
        [("padding", .int 20)])],
      .control "Divider" [("height", .int 30), ("thickness", .int 1)],
      .row [
          .icon "LIST_ALT" [("color", .text "Colors.BLUE_GREY_400")],
          .label existing [("theme_style", .text "TextThemeStyle.HEADLINE_SMALL"),
            ("weight", .text "FontWeight.BOLD")]]
        [("alignment", .text "MainAxisAlignment.START")],
      slot "promptList"] [("expand", .bool true)])]⟩
  modify fun d => { d with promptPages := d.promptPages ++ [{ scene, window := d.front }] }
  pure n

/-- The control for a card, which the card keeps itself. -/
def cardControl (n : Nat) (c : Card) : Node := .slot (.card n c.id) "card"

/-- A control of a page by name, with what it shows. -/
def kept? (n : Nat) (p : PromptsPage) (name : String) : Option Node :=
  match name with
  | "promptList" => (p.scene.find? name).map (·.set "controls" (p.cards.node (cardControl n)))
  | name => p.scene.find? name

/-- A page after a change from outside. -/
def changed (n : Nat) (p : PromptsPage) (name : String) (c : Change) : PromptsPage :=
  if name = "promptList" && c.concerns "controls" then
    { p with cards := c.onLineup (cardControl n) p.cards }
  else { p with scene := c.onScene name p.scene }

/-- What each card shows: the title that the order is saved by, the shown title and content, and
whether the prompt or the fields for editing it are shown. -/
def rows (p : PromptsPage) : Value :=
  .list (p.cards.owned.map fun c => .list [c.title, c.scene.value "displayTitle",
    c.scene.value "displayContent", (c.scene.control "displayView").readValue "visible",
    (c.scene.control "editView").readValue "visible"])

end PromptStudio.PromptsPage
