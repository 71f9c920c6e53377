import SqlTemplate.Proofs.Template.Placeholder
import SqlTemplate.Proofs.Template.Reading
import SqlTemplate.Session.Compile
/-!
# The language of templates

`WellFormed` is the grammar of annotated statements: characters other than braces, placeholders, and escape
sequences, which hold well-formed text again. It knows nothing of the scan, of its stack or of what lies ahead.
The main theorem, `parse_accepts_iff_wellFormed`, says that exactly the well-formed texts are accepted, and that all
others are refused as malformed.

The scan works through nested escape sequences with a stack, the grammar with recursion. What joins
them is `Closing`: a text that is read to the end from a stack of `n` open escape sequences is made of `n` well-formed
pieces, each with its closing brace, and a last one.
-/

namespace SqlTemplate

open Text

/-! ## The grammar -/

/-- An expression that denotes a path. -/
def IsExpression (text : List Char) : Prop := ∃ path, Path.ofExpression text = .ok path

/-- The trimmed text between the braces of a placeholder asks for a value: it is an expression, or a substitution
mark in any case with an expression behind it. -/
def AsksValue (content : List Char) : Prop :=
  IsExpression content ∨
    ∃ mark expression, content = mark ++ expression ∧ mark.map Char.toLower = substitutionMark ∧
      IsExpression expression

/-- The texts of annotated statements. -/
inductive WellFormed : List Char → Prop where
  | nil : WellFormed []
  | char {c : Char} {rest : List Char} (hc : ¬ IsBrace c) (hrest : WellFormed rest) :
    WellFormed (c :: rest)
  | placeholder {body rest : List Char} (hbody : BraceFree body) (hmark : ¬ StartsEscape body)
    (hvalue : AsksValue (trim body)) (hrest : WellFormed rest) :
    WellFormed ('{' :: (body ++ '}' :: rest))
  | escape {inside rest : List Char} (hinside : WellFormed inside) (hmark : StartsEscape inside)
    (hrest : WellFormed rest) : WellFormed ('{' :: (inside ++ '}' :: rest))

/-- The text between the braces of a placeholder denotes a fragment exactly if it asks for a value. -/
theorem exists_placeholder_iff_asksValue (declarations : Declarations) (body : List Char) :
    (∃ fragment, placeholder declarations body = .ok fragment) ↔ AsksValue (trim body) := by
  simp only [placeholder_eq_ok_iff]
  constructor
  · rintro ⟨fragment, ⟨path, hpath, -⟩ | ⟨mark, expression, path, hcontent, hmark, hpath, -⟩⟩
    · exact .inl ⟨path, hpath⟩
    · exact .inr ⟨mark, expression, hcontent, hmark, path, hpath⟩
  · rintro (⟨path, hpath⟩ | ⟨mark, expression, hcontent, hmark, path, hpath⟩)
    · exact ⟨_, .inl ⟨path, hpath, rfl⟩⟩
    · exact ⟨_, .inr ⟨mark, expression, path, hcontent, hmark, hpath, rfl⟩⟩

/-! ## From the grammar to the rules of reading -/

/-- A well-formed text is read wherever it stands, and leaves the stack as it is. -/
theorem reads_of_wellFormed (declarations : Declarations) {text : List Char} (h : WellFormed text)
    (ahead : List Char) (position : Nat) (opens : List Nat) :
    ∃ pieces, Reads declarations ahead position opens text pieces opens := by
  induction h generalizing ahead position opens with
  | nil => exact ⟨[], .done⟩
  | char hc _ ih =>
    obtain ⟨pieces, hreads⟩ := ih ahead (position + 1) opens
    exact ⟨_, .char hc hreads⟩
  | @placeholder body rest hbody hmark hvalue _ ih =>
    obtain ⟨fragment, hfragment⟩ := (exists_placeholder_iff_asksValue declarations body).mpr hvalue
    obtain ⟨pieces, hreads⟩ := ih ahead (position + body.length + 2) opens
    exact ⟨_, .hole hbody hmark hfragment hreads⟩
  | @escape inside rest _ hmark _ ihinside ihrest =>
    -- the inside is read with its closing brace ahead, on a stack with the opening brace on top
    obtain ⟨pieces, hinside⟩ :=
      ihinside ('}' :: (rest ++ ahead)) (position + 1) (position :: opens)
    obtain ⟨pieces', hrest⟩ := ihrest ahead (position + 1 + inside.length + 1) opens
    have hahead : StartsEscape (inside ++ '}' :: rest ++ ahead) := by
      rw [List.append_assoc]
      exact hmark.append _
    exact ⟨_, .escape hahead (hinside.append (.close hrest))⟩

/-! ## From the rules of reading to the grammar -/

/-- A text that closes a number of escape sequences, with well-formed text in between. -/
def Closing : Nat → List Char → Prop
  | 0, text => WellFormed text
  | depth + 1, text =>
    ∃ inside rest, text = inside ++ '}' :: rest ∧ WellFormed inside ∧ Closing depth rest

/-- What may stand in front of any well-formed text may stand in front of a closing one. -/
theorem Closing.prepend (front : List Char) (h : ∀ text, WellFormed text → WellFormed (front ++ text))
    {depth : Nat} {text : List Char} (htext : Closing depth text) : Closing depth (front ++ text) := by
  cases depth with
  | zero => exact h text htext
  | succ depth =>
    obtain ⟨inside, rest, rfl, hinside, hrest⟩ := htext
    exact ⟨front ++ inside, rest, by simp, h inside hinside, hrest⟩

/-- A text that is read to the end closes all that was open. -/
theorem closing_of_reads {declarations : Declarations} {position : Nat} {opens : List Nat}
    {text : List Char} {pieces : List Piece}
    (h : Reads declarations [] position opens text pieces []) : Closing opens.length text := by
  generalize hfinal : ([] : List Nat) = final at h
  induction h with
  | done =>
    subst hfinal
    exact WellFormed.nil
  | @char _ _ _ c _ _ hc _ ih =>
    exact (ih hfinal).prepend [c] fun _ htext => .char hc htext
  | @close _ _ _ _ text _ _ ih => exact ⟨[], text, rfl, .nil, ih hfinal⟩
  | @escape _ _ _ text _ hmark _ ih =>
    -- the stack is one higher behind the brace, so the first piece that is closed is what the brace opens
    obtain ⟨inside, rest, rfl, hinside, hrest⟩ := ih hfinal
    rw [List.append_nil, startsEscape_append_brace_iff (.inr rfl)] at hmark
    have hfront : ∀ text, WellFormed text → WellFormed ('{' :: (inside ++ ['}']) ++ text) := by
      intro text htext
      simpa using WellFormed.escape hinside hmark htext
    simpa using hrest.prepend ('{' :: (inside ++ ['}'])) hfront
  | @hole _ _ _ body text _ fragment hbody hmark hfragment _ ih =>
    have hfront : ∀ text, WellFormed text → WellFormed ('{' :: (body ++ ['}']) ++ text) := by
      intro text htext
      simpa using WellFormed.placeholder hbody hmark
        ((exists_placeholder_iff_asksValue _ body).mp ⟨fragment, hfragment⟩) htext
    simpa using (ih hfinal).prepend ('{' :: (body ++ ['}'])) hfront

/-! ## Accepted templates -/

/-- The scan accepts the well-formed texts. -/
theorem exists_reads_iff_wellFormed (declarations : Declarations) (text : List Char) :
    (∃ pieces, Reads declarations [] 0 [] text pieces []) ↔ WellFormed text := by
  constructor
  · rintro ⟨pieces, hreads⟩
    exact closing_of_reads hreads
  · intro h
    exact reads_of_wellFormed declarations h [] 0 []

/-- The language of templates: without declared types, a text is compiled exactly if it is well formed, and any
other text is refused with a fault of syntax. -/
theorem parse_accepts_iff_wellFormed (table : TypeTable) (source : String) :
    ((∃ template, Template.parse table source [] = .ok template) ↔ WellFormed source.toList) ∧
      ((∃ fault, Template.parse table source [] = .error (.malformed fault) ∧
          ((ParseFault.malformed fault).toFailure table source).className = "TemplateSyntaxError") ↔
        ¬ WellFormed source.toList) := by
  have hdeclared : declarationsOf table [] = .ok [] := rfl
  have hclass : ∀ fault : LocatedFault,
      ((ParseFault.malformed fault).toFailure table source).className = "TemplateSyntaxError" :=
    fun _ => rfl
  simp only [← exists_reads_iff_wellFormed [], parse_eq_ok_iff, parse_eq_malformed_iff, hdeclared,
    hclass, and_true, Except.ok.injEq]
  constructor
  · constructor
    · rintro ⟨_, _, pieces, rfl, hreads, _⟩
      exact ⟨pieces, hreads⟩
    · rintro ⟨pieces, hreads⟩
      exact ⟨_, _, pieces, rfl, hreads, rfl⟩
  · cases hscan : scan [] 0 [] source.toList with
    | ok pieces => simp [← scan_eq_ok_iff, hscan]
    | error fault => simp [← scan_eq_ok_iff, hscan]

end SqlTemplate
