import C4Diagram.Text.Blank

/-!
Values in double quotes. A backslash and a double quote get a backslash in front of them, so that
nothing else in the value changes.
-/

namespace C4Diagram

/-- The value with a backslash in front of each backslash and double quote. -/
def escaped (value : Text) : Text := value.flatMap fun c => if c = '\\' ∨ c = '"' then ['\\', c] else [c]

def quote (value : Text) : Text := '"' :: escaped value ++ ['"']

def present? (value : Option Text) : Option Text := (value.map Text.trim).filter (fun v => !v.isEmpty)

def namedArgument (name value : Text) : Text := name ++ '=' :: value

theorem escaped_eq_self {value : Text} (h : ∀ c ∈ value, c ≠ '\\' ∧ c ≠ '"') : escaped value = value := by
  induction value with
  | nil => rfl
  | cons c r ih =>
    have hc := h c (by simp)
    have hr := ih fun d hd => h d (by simp [hd])
    simp only [escaped] at hr
    simp [escaped, hc.1, hc.2, hr]

end C4Diagram
