import PromptStudio.Bench.Service

/-!
# Talking to the model

A message in a chat, which is made for the first message. The reply's parts are texts and images,
in order; a reply without any counts as a failure.
-/

namespace PromptStudio.Conversation

def defaultModel : String := "gemini-1.5-pro-image-preview"

/-- What one part of a reply contributes: its text, or else its image if it has one. -/
def contribution (part : ReplyPart) : Except Fault (Option Value) :=
  match part.text with
  | none => .error (.value (.noField (.record "Part" []) "text"))
  | some .null =>
    match part.conversion with
    | .missing => .error (.value (.noField (.record "Part" []) "as_image"))
    | .nothing => .ok none
    | .fails message => .error (.service message)
    | .image image => .ok (some (.image image))
  | some text => .ok (some text)

/-- What the parts of a reply contribute, in order. -/
def contributions : List ReplyPart → Except Fault (List Value)
  | [] => .ok []
  | part :: rest => do
    let first ← contribution part
    let others ← contributions rest
    .ok (first.toList ++ others)

/-- A counter of a reply's usage, which has to be there. -/
def counter (name : String) : Option Value → Except Fault Value
  | some v => .ok v
  | none => .error (.value (.noField (.record "Usage" []) name))

/-- Logs the usage of a reply. -/
def logUsage (u : Usage) : BenchStep Unit := do
  let input ← orFail (counter "prompt_token_count" u.input)
  let output ← orFail (counter "candidates_token_count" u.output)
  let total ← orFail (counter "total_token_count" u.total)
  Service.logUsage input output total

/-- Takes the parts out of a reply. -/
def partsOf (response : Response) : BenchStep (List Value) := do
  match response.parts with
  | some (part :: rest) =>
    let items ← orFail (contributions (part :: rest))
    if items.isEmpty then throw (.refused (← Texts.say "api_error_noValidImage").display)
    logText s!"✅ Received {items.length} parts from chat."
    pure items
  | _ =>
    match response.feedback with
    | .blocked reason => throw (.refused ("Request was blocked due to: " ++ reason.display))
    | _ => throw (.refused (← Texts.say "api_error_noParts").display)

/-- Logs the usage of a reply and takes its parts out. -/
def takeParts (response : Response) : BenchStep (List Value) := do
  match response.usage with
  | some (some u) => logUsage u
  | _ => pure ()
  partsOf response

/-- Sends a message once and takes the parts out of the reply. -/
def send (session parts config : Value) : BenchStep (List Value) := do
  match session with
  | .session number _ => recordEvent (.messageSent number parts config)
  | v => throw (.value (.noField v "send_message"))
  takeParts (← Service.nextReply)

/-- A message to be sent. -/
structure Message where
  client : Value
  session : Value
  parts : Value
  model : Value
  ratio : Value
  resolution : Value
deriving Repr, Inhabited

/-- The session of a message: the given one, or a new one. -/
def sessionFor (message : Message) (model : Value) : BenchStep Value := do
  match message.session with
  | .null =>
    logText "✨ Creating new chat session."
    match message.client with
    | .client _ =>
      Service.makeChat model (.config "GenerateContentConfig"
        [("response_modalities", .list [.text "TEXT", .text "IMAGE"])])
    | v => throw (.value (.noField v "chats"))
  | session => pure session

/-- The settings of a message to a model that is fast or not. -/
def sizedConfig (ratio resolution : Value) (fast : Bool) : BenchStep Value := do
  let size : List (String × Value) ← if fast then do
      logValue (← Texts.say "api_log_gemini25")
      pure []
    else pure ((if Service.hasRatio ratio then [("aspect_ratio", ratio)] else []) ++
      (if resolution.truthy then [("image_size", resolution)] else []))
  pure (.config "GenerateContentConfig"
    [("image_config", if size.isEmpty then .null else .config "ImageConfig" size)])

/-- The settings of a message. Fast models take no size. -/
def config (model ratio resolution : Value) : BenchStep Value := do
  let fast ← if ← orFail (Service.mentions model "2.5") then pure true
    else orFail (Service.mentions model "flash")
  sizedConfig ratio resolution fast

/-- Logs what is sent and sends it. -/
def deliver (message : Message) (model session settings : Value) :
    BenchStep (Option (Value × List Value)) := do
  let ratioText ← Texts.lookup message.ratio message.ratio []
  logText ("💬 Sending message to chat | Model: " ++ model.display ++ " | AR: " ++
    ratioText.display ++ " | Res: " ++ message.resolution.display)
  match ← Service.persist Service.isChatOver (send session message.parts settings) with
  | some items => pure (some (session, items))
  | none => pure none

/-- Sends a message and gives back the session with the parts of the reply. Nothing is given back
without a client or when every attempt failed. -/
def talk (message : Message) : BenchStep (Option (Value × List Value)) := do
  match message.client with
  | .null =>
    logValue (← Texts.say "api_error_apiKey")
    pure none
  | _ =>
    let model := if message.model.truthy then message.model else .text defaultModel
    let session ← sessionFor message model
    deliver message model session (← config model message.ratio message.resolution)

end PromptStudio.Conversation
