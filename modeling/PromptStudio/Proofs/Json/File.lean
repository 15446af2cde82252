import PromptStudio.Proofs.Bench.Step
import PromptStudio.Proofs.Json.RoundTrip
import PromptStudio.Proofs.Text.Utf8

/-!
# Files of JSON

What is read from a file as JSON, by what the file holds: bytes that are no text, a text that is no
JSON, or a value. A value that was written to a file is read back.
-/

namespace PromptStudio

/-- A text with plain line ends, as a text file is read. -/
def withPlainLineEnds (s : String) : String := String.ofList (plainLineEnds s.toList)

namespace FileTree

variable {files : FileTree} {path : String} {content : Content}

theorem has_of_read (h : files.read path = .ok content) : files.has path = true := by
  rw [read] at h
  rw [has]
  cases hentry : files.entry path with
  | error cause =>
    rw [hentry] at h
    cases h
  | ok entry => rfl

theorem ofSystem_of_not_read {fault : FileFault} (hhas : files.has path = true)
    (h : files.read path = .error fault) : (Fault.file fault).ofSystem = true := by
  obtain ⟨entry, hentry⟩ := isOk_iff.mp hhas
  rw [read, hentry] at h
  cases entry with
  | file content time => cases h
  | folder | brokenLink =>
    cases h
    rfl

theorem json_of_not_read {fault : FileFault} (h : files.read path = .error fault) :
    files.json path = .error (.file fault) := by
  rw [json, text, h]
  rfl

theorem json_of_no_text {fault : Text.Utf8Fault} (h : files.read path = .ok content)
    (htext : content.text = .error fault) : files.json path = .error (.encoding fault content) := by
  rw [json, text, h]
  change ((content.text.mapError (Fault.encoding · content) >>= _) >>= _) = _
  rw [htext]
  rfl

theorem json_of_text {s : String} (h : files.read path = .ok content) (htext : content.text = .ok s) :
    files.json path =
      (Json.parse (withPlainLineEnds s)).mapError (Fault.json · (withPlainLineEnds s)) := by
  have hread : files.text path = .ok (withPlainLineEnds s) := by
    rw [text, h]
    change (content.text.mapError (Fault.encoding · content) >>= _) = _
    rw [htext]
    rfl
  rw [json, hread]
  simp only [bind, Except.bind]

end FileTree

theorem plainLineEnds_eq_self {cs : List Char} (h : '\r' ∉ cs) : plainLineEnds cs = cs := by
  induction cs with
  | nil => rfl
  | cons c cs ih =>
    rw [List.mem_cons, not_or] at h
    rw [plainLineEnds, ih h.2]
    · exact fun tail heq => absurd heq.symm h.1
    · exact Ne.symm h.1

section

variable {depth : Nat} {v : Value}

theorem withPlainLineEnds_render (h : Json.Kept depth v) (spacing : Json.Spacing) :
    withPlainLineEnds (Json.render spacing v) = Json.render spacing v := by
  rw [withPlainLineEnds, Json.render, String.toList_ofList,
    plainLineEnds_eq_self (Json.return_notMem_print h spacing 0)]

theorem FileTree.json_render (h : Json.Kept depth v) (hdepth : depth ≤ Json.nestingLimit)
    (spacing : Json.Spacing) {files : FileTree} {path : String}
    (hfile : files.read path = .ok (.ofText (Json.render spacing v))) : files.json path = .ok v := by
  rw [json_of_text hfile (Text.decode_encode _), withPlainLineEnds_render h,
    Json.parse_render h hdepth]
  rfl

end

end PromptStudio
