import PromptStudio.Value.Basic

/-!
# Replies of the image service

What the service answers to a request. Every part of an answer may be missing, and a counter of
the usage may be missing or empty.
-/

namespace PromptStudio

/-- A part of a reply: inline data, a text field that may be missing, an image conversion. -/
structure ReplyPart where
  inlineData : Option Content
  text : Option Value
  conversion : Conversion
deriving Repr, Inhabited

/-- The counters of a reply's usage: missing, empty or a number. -/
structure Usage where
  input : Option Value
  output : Option Value
  total : Option Value
deriving Repr, Inhabited

/-- One candidate of a reply: missing, or with a finish reason that may be empty. -/
inductive Candidate where
  | missing
  | finished (reason : Option Value)
deriving Repr, Inhabited

/-- The service's verdict on the request: none given, given without a reason, or a reason. -/
inductive Feedback where
  | none
  | noReason
  | blocked (reason : Value)
deriving Repr, Inhabited

/-- An answer of the service. -/
structure Response where
  parts : Option (List ReplyPart)
  candidates : Option (List Candidate)
  feedback : Feedback
  /-- `none` when the answer has no usage, `some none` when it is empty. -/
  usage : Option (Option Usage)
deriving Repr, Inhabited

/-- A reply: a failure with a message, or an answer. -/
inductive Reply where
  | fails (message : String)
  | answers (response : Response)
deriving Repr, Inhabited

end PromptStudio
