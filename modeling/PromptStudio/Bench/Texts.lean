import PromptStudio.Bench.Store
import PromptStudio.Catalog.Texts

/-!
# Texts of the interface

Texts are looked up by key in the table of the chosen language, which is read from a file. While
the table is empty it is read again at every look-up. With arguments the text is a template; a
template that names a missing argument is given back as it is.
-/

namespace PromptStudio

namespace Catalog

def ofPairs (pairs : List (String × String)) : Value :=
  .object (pairs.map fun pair => (pair.1, .text pair.2))

/-- The folder of shipped language files, with the files that stand beside it. -/
def shipped : Entry :=
  .folder [("common", .folder []),
    ("lang", .folder [
      ("en.json", .file (.ofText (Json.render .compact (ofPairs english))) none),
      ("zh.json", .file (.ofText (Json.render .compact (ofPairs chinese))) none)])]

def resourcePath (b : Bench) (relative : String) : String := Path.join b.resources relative

end Catalog

namespace Texts

/-- Loads the table of the chosen language. A file that is missing or is no JSON gives an empty
table; one that cannot be read otherwise stops the loading. -/
def load : BenchStep Unit := do
  let language ← Store.setting "language" (.text "zh")
  modify fun b => { b with catalog := { b.catalog with language } }
  let b ← get
  let path := Catalog.resourcePath b (Path.join "../lang" (language.display ++ ".json"))
  let use (table : Value) : BenchStep Unit :=
    modify fun b => { b with
      catalog := { b.catalog with table, edition := b.catalog.edition + 1 } }
  if b.files.has path then
    match b.files.json path with
    | .ok table => use table
    | .error fault =>
      if fault.ofSystem || fault.ofJson then
        printText ("❌ Failed to load language: " ++ fault.message)
        use (.object [])
      else throw fault
  else use (.object [])

/-- The text for a key, before arguments are filled in. -/
def find (table key fallback : Value) : Except Fault Value :=
  match table with
  | .object fields =>
    match key with
    | .text name => .ok ((Value.lookup name fields).getD fallback)
    | key => (key.toKey.map fun _ => fallback).mapError .value
  | v => .error (.value (.noField v "get"))

/-- A text with arguments filled in; one that names a missing argument stays as it is. -/
def fillIn (text : Value) (args : List (String × Value)) : Except Fault Value :=
  if args.isEmpty then .ok text
  else match text with
    | .text template =>
      match Template.fill template args with
      | .ok s => .ok (.text s)
      | .error (.missing _) | .error (.value (.missing _)) => .ok text
      | .error fault => .error (.template fault)
    | v => .error (.value (.noField v "format"))

/-- The text for a key, or the default, or the key itself; with arguments filled in. -/
def lookup (key default : Value) (args : List (String × Value)) : BenchStep Value := do
  if !(← get).catalog.table.truthy then load
  let fallback := match default with
    | .null => key
    | v => v
  let text ← orFail (find (← get).catalog.table key fallback)
  orFail (fillIn text args)

/-- The text for a key with arguments that a caller names; the names of the key and of the default
are taken. -/
def request (key default : Value) (args : List (String × Value)) : BenchStep Value := do
  match args.find? fun arg => arg.1 = "key" || arg.1 = "default" with
  | some (name, _) => throw (.value (.repeatedArgument name))
  | none => lookup key default args

def say (key : String) : BenchStep Value := lookup (.text key) .null []

/-- The text for a key, with a default. -/
def sayOr (key default : String) : BenchStep Value := lookup (.text key) (.text default) []

def sayWith (key : String) (args : List (String × Value)) : BenchStep Value :=
  lookup (.text key) .null args

/-- The texts for several keys, each with its key. -/
def choices : List Value → BenchStep (List (Value × Value))
  | [] => pure []
  | key :: rest => do
    let text ← lookup key .null []
    pure ((text, key) :: (← choices rest))

end Texts

end PromptStudio
