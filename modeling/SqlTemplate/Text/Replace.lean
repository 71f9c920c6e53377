/-!
# Replacing

`replaceAll` replaces every occurrence of one text by another, from left to right and without looking
again at what it has put in.  The empty text occurs in front of every character and at the end.
-/

namespace SqlTemplate.Text

/-- Replaces occurrences after `skip` characters, which belong to the occurrence found before. -/
def replaceAfter (old new : List Char) : Nat → List Char → List Char
  | _, [] => []
  | skip + 1, _ :: rest => replaceAfter old new skip rest
  | 0, c :: rest =>
    if old.isPrefixOf (c :: rest) then new ++ replaceAfter old new (old.length - 1) rest
    else c :: replaceAfter old new 0 rest

/-- A text with all occurrences of `old` replaced by `new`. -/
def replaceAll (old new text : List Char) : List Char :=
  match old with
  | [] => new ++ text.flatMap fun c => c :: new
  | _ => replaceAfter old new 0 text

/-- Replacing one character is done character by character. -/
theorem replaceAfter_singleton (old : Char) (new text : List Char) :
    replaceAfter [old] new 0 text = text.flatMap fun c => if c = old then new else [c] := by
  induction text with
  | nil => rfl
  | cons c text ih =>
    rw [List.flatMap_cons, ← ih, replaceAfter]
    by_cases h : c = old
    · subst h
      simp
    · simp [h, Ne.symm h]

end SqlTemplate.Text
