import SqlTemplate.Proofs.Statement.Rendering
/-!
# Statements as format texts

In two marker styles the driver takes the text of a statement for a format text: `%s` stands for the next parameter
by position, `%(name)s` for the parameter of a name, `%%` for a percent sign, and no other percent sign may occur.
`FormatPiece.readFrom` is such a reader; it goes from left to right and knows nothing of how statements are made.

`read_render` is the main theorem: the reader gets back each literal text and each substituted text character for
character, and the marker with a number as the reference to the binding with that number. A text is read back alone,
whatever comes behind it (`readFrom_escaped`), and so is a marker (`MarkerStyle.IsFormat`); texts and markers that touch
therefore do not disturb each other.
-/

namespace SqlTemplate

open Text

/-! ## The reader -/

/-- A piece of a format text. -/
inductive FormatPiece where
  /-- A character that stands for itself. -/
  | char (c : Char)
  /-- The parameter with a number, counted by position. -/
  | positional (index : Nat)
  /-- The parameter of a name. -/
  | named (name : String)
  deriving DecidableEq, Repr

/-- Where a reader of a format text stands. -/
inductive FormatPlace where
  | text
  /-- Behind a percent sign that starts something. -/
  | directive
  /-- In the name of a parameter, behind some characters of it. -/
  | name (characters : List Char)
  /-- Behind the name of a parameter. -/
  | conversion (name : List Char)

namespace FormatPiece

/-- Reads on in a format text; `index` is the number of the next parameter by position. There is no reading if a
percent sign is used in any other way. -/
def readFrom (index : Nat) : FormatPlace → List Char → Option (List FormatPiece)
  | .text, [] => some []
  | _, [] => none
  | .text, c :: rest =>
    if c = '%' then readFrom index .directive rest else (.char c :: ·) <$> readFrom index .text rest
  | .directive, c :: rest =>
    if c = '%' then (.char c :: ·) <$> readFrom index .text rest
    else if c = 's' then (.positional index :: ·) <$> readFrom (index + 1) .text rest
    else if c = '(' then readFrom index (.name []) rest
    else none
  | .name characters, c :: rest =>
    if c = ')' then readFrom index (.conversion characters) rest
    else readFrom index (.name (characters ++ [c])) rest
  | .conversion name, c :: rest =>
    if c = 's' then (.named (String.ofList name) :: ·) <$> readFrom index .text rest else none

/-- What a text is read as. -/
def read (text : String) : Option (List FormatPiece) :=
  readFrom 0 .text text.toList

/-- The pieces that a text is when each of its characters stands for itself. -/
def chars (text : String) : List FormatPiece :=
  text.toList.map .char

/-- The name of a parameter is read up to the bracket behind it. -/
theorem readFrom_name {name : List Char} (h : ')' ∉ name) (index : Nat)
    (characters rest : List Char) :
    readFrom index (.name characters) (name ++ ')' :: rest)
      = readFrom index (.conversion (characters ++ name)) rest := by
  induction name generalizing characters with
  | nil =>
    rw [List.nil_append, readFrom, if_pos rfl, List.append_nil]
  | cons c name ih =>
    have hc : c ≠ ')' := fun hc => h (hc ▸ List.mem_cons_self)
    have hname : ')' ∉ name := fun hmem => h (List.mem_cons_of_mem c hmem)
    rw [List.cons_append, readFrom, if_neg hc, ih hname, List.append_assoc, List.singleton_append]

end FormatPiece

/-- The value that a reference stands for. -/
def DriverArguments.value? : DriverArguments → FormatPiece → Option Value
  | .positional values, .positional index => values[index]?
  | .named values, .named name => values.lookup name
  | _, _ => none

/-! ## Texts -/

namespace MarkerStyle

variable {style : MarkerStyle}

/-- The reference to the binding with a number, in a style for format texts. -/
def reference (style : MarkerStyle) (index : Nat) : FormatPiece :=
  if style.positional then .positional index else .named ("p" ++ toString index)

/-- The number of parameters by position among a number of markers. -/
def positions (style : MarkerStyle) (count : Nat) : Nat :=
  if style.positional then count else 0

theorem reference_injective (style : MarkerStyle) : Function.Injective style.reference := by
  intro a b h
  unfold reference at h
  by_cases hstyle : style.positional
  · rw [if_pos hstyle, if_pos hstyle] at h
    exact FormatPiece.positional.inj h
  · rw [if_neg hstyle, if_neg hstyle] at h
    exact Statement.bindingName_injective (FormatPiece.named.inj h)

/-- An escaped text is read as the text that it was, whatever comes behind it. -/
theorem readFrom_escaped (h : style.escape = some ("%", "%%")) (index : Nat) (text : String)
    (rest : List Char) :
    FormatPiece.readFrom index .text ((style.escaped text).toList ++ rest)
      = (FormatPiece.chars text ++ ·) <$> FormatPiece.readFrom index .text rest := by
  rw [escaped_of_escape _ h, doublePercents, String.toList_ofList, FormatPiece.chars]
  induction text.toList with
  | nil => simp
  | cons c text ih =>
    rw [List.flatMap_cons, List.map_cons, List.append_assoc]
    by_cases hc : c = '%'
    · subst hc
      rw [if_pos rfl, List.cons_append, List.cons_append, List.nil_append, FormatPiece.readFrom,
        if_pos rfl, FormatPiece.readFrom, if_pos rfl, ih, Option.map_eq_map, Option.map_eq_map,
        Option.map_map]
      rfl
    · rw [if_neg hc, List.cons_append, List.nil_append, FormatPiece.readFrom, if_neg hc, ih,
        Option.map_eq_map, Option.map_eq_map, Option.map_map]
      rfl

/-- A style for format texts: percent signs are doubled, and each marker is read as the reference to its binding,
whatever comes behind it. -/
structure IsFormat (style : MarkerStyle) : Prop where
  doubles : style.escape = some ("%", "%%")
  marks : ∀ (index : Nat) (rest : List Char),
    FormatPiece.readFrom (style.positions index) .text ((style.marker index).toList ++ rest)
      = (style.reference index :: ·) <$> FormatPiece.readFrom (style.positions (index + 1)) .text rest

theorem isFormat_format : IsFormat .format where
  doubles := rfl
  marks index rest := by
    have hmarker : (MarkerStyle.format.marker index).toList = ['%', 's'] := by
      simp [marker, format]
    rw [hmarker, List.cons_append, List.cons_append, List.nil_append, FormatPiece.readFrom,
      if_pos rfl, FormatPiece.readFrom, if_neg (by decide), if_pos rfl]
    rfl

theorem isFormat_pyformat : IsFormat .pyformat where
  doubles := rfl
  marks index rest := by
    have hmarker : (MarkerStyle.pyformat.marker index).toList
        = '%' :: '(' :: ((bindingName index).toList ++ [')', 's']) := by
      simp [marker, pyformat]
    -- a bracket in the name would end it early
    have hname : ')' ∉ (bindingName index).toList := by
      intro hmem
      rcases Statement.eq_or_isDigit_of_mem_bindingName hmem with hp | hdigit
      · exact absurd hp (by decide)
      · exact absurd hdigit (by decide)
    rw [hmarker, List.cons_append, List.cons_append, List.append_assoc, FormatPiece.readFrom,
      if_pos rfl, FormatPiece.readFrom, if_neg (by decide), if_neg (by decide), if_pos rfl]
    rw [List.cons_append, List.cons_append, FormatPiece.readFrom_name hname, FormatPiece.readFrom,
      if_pos rfl, List.nil_append, String.ofList_toList]
    rfl

end MarkerStyle

namespace Statement

/-- Parts that are laid out are read back one after the other. -/
theorem readFrom_layoutFrom {style : MarkerStyle} (h : style.IsFormat) (index : Nat)
    (parts : List StatementPart) :
    FormatPiece.readFrom (style.positions index) .text (String.join (layoutFrom style index parts)).toList
      = some (arrangeFrom FormatPiece.chars (fun i => [style.reference i]) index parts).flatten := by
  induction parts generalizing index with
  | nil => rfl
  | cons part parts ih =>
    cases part with
    | text text =>
      rw [layoutFrom, arrangeFrom, List.flatten_cons, String.join_cons, String.toList_append,
        MarkerStyle.readFrom_escaped h.doubles, ih]
      rfl
    | bound binding =>
      rw [layoutFrom, arrangeFrom, List.flatten_cons, String.join_cons, String.toList_append,
        h.marks, ih]
      rfl

/-- A statement is read as what its template and the texts of the substituted values say: each text as its
characters, and each parameter as the reference to the binding with its number. -/
structure ReadsBack (style : MarkerStyle) (template : Template) (values : List Value)
    (texts : List String) (statement : Statement) : Prop where
  pieces : ∃ pieces : List (List FormatPiece),
    pieces.map some = template.fragments.mapIdx (fun place fragment =>
      contribution? FormatPiece.chars (fun i => [style.reference i]) (template.fragments.take place)
        texts fragment) ∧
    FormatPiece.read statement.sql = some pieces.flatten
  bindings : statement.bindings = bound template.fragments values
  /-- References to different bindings are different. -/
  distinct : Function.Injective style.reference
  /-- A reference leads to the value of its binding. -/
  value : ∀ (index : Nat) (binding : Binding), statement.bindings[index]? = some binding →
    statement.arguments.value? (style.reference index) = some binding.value

/-- The reference to a binding leads to its value. -/
theorem value?_reference (paramstyle : String) (style : MarkerStyle) (parts : List StatementPart)
    {index : Nat} {binding : Binding}
    (h : (ofParts paramstyle style parts).bindings[index]? = some binding) :
    (ofParts paramstyle style parts).arguments.value? (style.reference index)
      = some binding.value := by
  cases hstyle : style.positional with
  | true =>
    have hreference : style.reference index = .positional index := if_pos hstyle
    rw [arguments_ofParts paramstyle hstyle, hreference, DriverArguments.value?, List.getElem?_map,
      h, Option.map_some]
  | false =>
    have hreference : style.reference index = .named ("p" ++ toString index) := by
      rw [MarkerStyle.reference, hstyle, if_neg Bool.false_ne_true]
    have hnames := namesBindings_ofParts paramstyle hstyle parts
    have hindex : index < (ofParts paramstyle style parts).bindings.length :=
      (List.getElem?_eq_some_iff.mp h).1
    obtain ⟨entries, harguments, -, -, hlookup⟩ := hnames.arguments (Nat.lt_of_le_of_lt (Nat.zero_le _) hindex)
    have hname : (ofParts paramstyle style parts).names[index]? = some ("p" ++ toString index) := by
      rw [hnames.names, List.getElem?_map, List.getElem?_range hindex, Option.map_some]
    rw [harguments, hreference]
    exact hlookup index _ binding hname h

/-- Rendered for a driver that takes format texts, a template and values make a statement that is read back as what
they are. -/
theorem read_render {paramstyle : String} {style : MarkerStyle}
    (hstyle : MarkerStyles.standard.find paramstyle = .ok style)
    (hformat : paramstyle = "format" ∨ paramstyle = "pyformat") (template : Template)
    (values : List Value) (hcount : values.length = template.valueFragments.length)
    {texts : List String} {w w' : World}
    (htexts : ((substituted template.fragments values).mapM Run.textOf).start w = (.ok texts, w')) :
    ∃ statement, (render paramstyle style template values).start w = (.ok statement, w') ∧
      ReadsBack style template values texts statement := by
  have hreads : style.IsFormat := by
    rcases hformat with rfl | rfl
    · obtain rfl := Except.ok.inj hstyle
      exact MarkerStyle.isFormat_format
    · obtain rfl := Except.ok.inj hstyle
      exact MarkerStyle.isFormat_pyformat
  have hsupplied : Supplied template.fragments values := supplied_of_length hcount
  have hlength := length_texts hsupplied htexts
  refine ⟨_, start_render paramstyle style hcount htexts, ⟨?_, ?_, ?_, ?_⟩⟩
  · refine ⟨_, arrangeFrom_placed FormatPiece.chars (fun i => [style.reference i]) hsupplied [] [] rfl
      hlength, ?_⟩
    have hread := readFrom_layoutFrom hreads 0 (placed template.fragments values texts)
    rwa [MarkerStyle.positions, ite_self] at hread
  · exact filterMap_binding?_placed hsupplied hlength
  · exact style.reference_injective
  · intro index binding hbinding
    exact value?_reference paramstyle style _ hbinding

/-- Percent signs touch markers on both sides, and texts look like markers. -/
theorem read_render_percents :
    MarkerStyles.standard.find "pyformat" = .ok .pyformat ∧
      ∃ template : Template, template.valueFragments.length = 3 ∧
        template.fragments.filterMap (fun | .literal text => some text | _ => none)
          = ["100%", "%(p0)s%"] ∧
        ∃ statement,
          (render "pyformat" .pyformat template [.int 7, .null, .text "%s%"]).start .empty
            = (.ok statement, .empty) ∧
          ReadsBack .pyformat template [.int 7, .null, .text "%s%"] ["%s%"] statement := by
  have hstyle : MarkerStyles.standard.find "pyformat" = .ok .pyformat := rfl
  let path : Path := ⟨["a"], by simp, by decide +kernel⟩
  let template : Template := ⟨"", [.literal "100%", .parameter path .longVarChar,
    .literal "%(p0)s%", .parameter path .longVarChar, .substitution path]⟩
  refine ⟨hstyle, template, rfl, rfl, ?_⟩
  exact read_render hstyle (.inr rfl) template [.int 7, .null, .text "%s%"] rfl rfl

end Statement

end SqlTemplate
