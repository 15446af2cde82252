import PromptStudio.Desktop.Lineup

/-!
# Reading what was set

A property of a control in a scene reads as it was set last, and setting it leaves all other
properties of all controls as they are. Only controls take properties, so what a scene keeps under a
name has to be one, and it stays one.
-/

namespace PromptStudio

namespace Node

variable {n new : Node} {name other : String} {v : Value}

/-- A node that has properties. -/
def IsControl (n : Node) : Prop := ∃ kind props, n = control kind props

theorem IsControl.set (h : n.IsControl) : (n.set name new).IsControl := by
  obtain ⟨kind, props, rfl⟩ := h
  exact ⟨kind, _, rfl⟩

theorem IsControl.readValue_set (h : n.IsControl) : (n.set name (.value v)).readValue name = v := by
  obtain ⟨kind, props, rfl⟩ := h
  simp [Node.set, readValue, read?]

theorem readValue_set_of_ne (hne : other ≠ name) :
    (n.set name new).readValue other = n.readValue other := by
  cases n with
  | control kind props => simp [Node.set, readValue, read?, lookup_insert_of_ne hne]
  | _ => rfl

end Node

namespace Scene

variable {s : Scene} {n new : Node} {name other property property' : String} {v : Value}

theorem control_put_self : (s.put name n).control name = n := by
  simp [control, find?, put]

theorem control_put_of_ne (hne : other ≠ name) :
    (s.put name n).control other = s.control other := by
  simp [control, find?, put, Node.lookup_insert_of_ne hne]

theorem readValue_set (h : (s.control name).IsControl) :
    ((s.set name property (.value v)).control name).readValue property = v := by
  rw [set, control_put_self]
  exact h.readValue_set

theorem readValue_set_of_ne (hne : other ≠ name ∨ property' ≠ property) :
    ((s.set name property new).control other).readValue property' =
      (s.control other).readValue property' := by
  by_cases hname : other = name
  · subst hname
    rw [set, control_put_self]
    exact Node.readValue_set_of_ne (hne.resolve_left (not_not_intro rfl))
  · rw [set, control_put_of_ne hname]

theorem isControl_set (h : (s.control other).IsControl) :
    ((s.set name property new).control other).IsControl := by
  by_cases hname : other = name
  · subst hname
    rw [set, control_put_self]
    exact h.set
  · rwa [set, control_put_of_ne hname]

/-- The scene has a control of the given name. -/
def Has (s : Scene) (name : String) : Prop := ∃ n, s.find? name = some n ∧ n.IsControl

theorem Has.isControl (h : s.Has name) : (s.control name).IsControl := by
  obtain ⟨n, hfind, hcontrol⟩ := h
  rwa [control, hfind]

theorem Has.set (h : s.Has other) : (s.set name property new).Has other := by
  by_cases hname : other = name
  · subst hname
    exact ⟨_, Node.lookup_insert_self _ _ _, h.isControl.set⟩
  · obtain ⟨n, hfind, hcontrol⟩ := h
    exact ⟨n, (Node.lookup_insert_of_ne hname _ _).trans hfind, hcontrol⟩

theorem Has.put_of_ne (h : s.Has other) (hne : other ≠ name) : (s.put name new).Has other := by
  obtain ⟨n, hfind, hcontrol⟩ := h
  exact ⟨n, (Node.lookup_insert_of_ne hne _ _).trans hfind, hcontrol⟩

/-- A property of a control is switched on, or off. -/
def Switched (s : Scene) (name property : String) (on : Bool) : Prop :=
  (s.control name).IsControl ∧ ((s.control name).readValue property).truthy = on

theorem Switched.set {on : Bool} (h : s.Switched name property on) (on' : Bool) :
    (s.set name property (.bool on')).Switched name property on' := by
  refine ⟨isControl_set h.1, ?_⟩
  rw [Node.bool, readValue_set h.1]
  rfl

theorem Switched.set_of_ne {on : Bool} (h : s.Switched other property' on)
    (hne : other ≠ name ∨ property' ≠ property) :
    (s.set name property new).Switched other property' on := by
  refine ⟨isControl_set h.1, ?_⟩
  rw [readValue_set_of_ne hne]
  exact h.2

theorem Switched.put_of_ne {on : Bool} (h : s.Switched other property on) (hne : other ≠ name) :
    (s.put name n).Switched other property on := by
  rw [Switched, control_put_of_ne hne]
  exact h

theorem value_setValue_cases (s : Scene) (name other : String) (v : Value) :
    (s.setValue name v).value other = v ∨ (s.setValue name v).value other = s.value other := by
  by_cases hname : other = name
  · subst hname
    cases hcontrol : s.control other with
    | control kind props => exact .inl (readValue_set ⟨kind, props, hcontrol⟩)
    | _ =>
      right
      rw [value, value, setValue, set, control_put_self, hcontrol]
      rfl
  · exact .inr (readValue_set_of_ne (.inl hname))

end Scene

theorem Change.onScene_cases (property name : String) (v : Value) (s : Scene) :
    onScene ⟨[], property, v⟩ name s = s.set name property (.value v) ∨
      onScene ⟨[], property, v⟩ name s = s := by
  rw [onScene, Scene.set, Scene.control]
  cases s.find? name with
  | none => exact .inr rfl
  | some n => exact .inl rfl

end PromptStudio
