import HttpConformance.Variables
import HttpConformance.Text.Utf8

/-!
# Substitution

A text may refer to a variable as `${name}` or as `|name|`. Substitution puts the values in the
place of the references in one pass from the left: an inserted value is not read again, and whatever
is no reference to a known variable stays as it is.

Main definitions:

- `placeholder?`: the reference at the front of a text.
- `Variables.substitute` and `Variables.substituteBytes`.
-/

namespace HttpConformance

/-- The characters of which the name in a reference is made. -/
def isNameChar (c : Char) : Bool :=
  c.isAlphanum || c == '.' || c == '_' || c == '-'

/-- A text that may stand between the marks of a reference. -/
def isReferenceName (name : Text) : Bool :=
  name ≠ [] && name.all isNameChar

/-- The text between the marks of what looks like a reference at the front of a text, and the text
after its closing mark. -/
def enclosed? : Text → Option (Text × Text)
  | '$' :: '\x7b' :: rest => cutAt '\x7d' rest
  | '|' :: rest => cutAt '|' rest
  | _ => none

/-- The value of the reference at the front of a text, and the text after it. -/
def placeholder? (vars : Variables) (text : Text) : Option (Text × Text) :=
  match enclosed? text with
  | none => none
  | some (name, rest) =>
    if isReferenceName name then (vars.find? name).map (·, rest) else none

/-- What stands behind a placeholder is shorter than the whole. -/
theorem length_lt_of_placeholder? {vars : Variables} {text value rest : Text}
    (h : placeholder? vars text = some (value, rest)) : rest.length < text.length := by
  unfold placeholder? at h
  split at h
  · exact absurd h (by simp)
  · rename_i name after henclosed
    have hafter : after = rest := by
      split at h
      · obtain ⟨_, _, heq⟩ := Option.map_eq_some_iff.1 h
        exact (Prod.mk.inj heq).2
      · exact absurd h (by simp)
    subst hafter
    unfold enclosed? at henclosed
    split at henclosed
    · exact Nat.lt_of_lt_of_le (length_lt_of_cutAt henclosed) (by simp; omega)
    · exact Nat.lt_of_lt_of_le (length_lt_of_cutAt henclosed) (by simp)
    · exact absurd henclosed (by simp)

/-- The text with every reference to a known variable replaced by the variable's value. -/
def Variables.substitute (vars : Variables) : Text → Text
  | [] => []
  | c :: rest =>
    match h : placeholder? vars (c :: rest) with
    | some (value, after) =>
      have := length_lt_of_placeholder? h
      value ++ vars.substitute after
    | none => c :: vars.substitute rest
termination_by text => text.length
decreasing_by
  · assumption
  · exact Nat.lt_succ_self rest.length

/-- Substitution in the text that some bytes encode; bytes that are no text stay as they are. -/
def Variables.substituteBytes (vars : Variables) (bytes : Bytes) : Bytes :=
  match Utf8.decode? bytes with
  | some text => Utf8.encode (vars.substitute text)
  | none => bytes

end HttpConformance
