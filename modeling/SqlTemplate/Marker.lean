import SqlTemplate.Named
import SqlTemplate.Object.Failure
import SqlTemplate.Text.Replace
/-!
# Marker styles

A database driver expects the places of bound values to be marked in its own way: `?`, `:1`, `:p0`, `%s`
or `%(p0)s`.  A `MarkerStyle` says how the marker of a binding looks, whether the values are passed by
position or by name, and what has to be written twice in the rest of the text so that the driver reads
it as it was.

Styles are known by name.  `MarkerStyles.standard` holds the five common ones; others can be added, and
a new style takes the place of an old one of its name.
-/

namespace SqlTemplate

open Text

/-- What a marker shows of the number of its binding. -/
inductive MarkerLabel where
  | nothing
  /-- The number of the binding, counted from an offset. -/
  | number (offset : Int)
  /-- The name of the binding. -/
  | name
  deriving DecidableEq, Repr

/-- The name of the binding with a number. -/
def bindingName (index : Int) : String :=
  "p" ++ toString index

/-- How values are marked in a statement. -/
structure MarkerStyle where
  opening : String
  label : MarkerLabel
  closing : String
  /-- The values are passed by position, not by name. -/
  positional : Bool
  /-- What text is replaced by what other, outside markers. -/
  escape : Option (String × String)
  deriving DecidableEq, Repr

namespace MarkerStyle

/-- The marker of the binding with a number. -/
def marker (style : MarkerStyle) (index : Int) : String :=
  let label :=
    match style.label with
    | .nothing => ""
    | .number offset => toString (index + offset)
    | .name => bindingName index
  style.opening ++ label ++ style.closing

/-- A text as the driver reads it back verbatim. -/
def escaped (style : MarkerStyle) (text : String) : String :=
  match style.escape with
  | none => text
  | some (old, new) => String.ofList (replaceAll old.toList new.toList text.toList)

/-- A question mark for every value. -/
def qmark : MarkerStyle := ⟨"?", .nothing, "", true, none⟩

/-- Numbers counted from one. -/
def numeric : MarkerStyle := ⟨":", .number 1, "", true, none⟩

/-- A directive of a format text for every value; any other percent sign is doubled. -/
def format : MarkerStyle := ⟨"%s", .nothing, "", true, some ("%", "%%")⟩

/-- Names. -/
def named : MarkerStyle := ⟨":", .name, "", false, none⟩

/-- Directives of a format text with names. -/
def pyformat : MarkerStyle := ⟨"%(", .name, ")s", false, some ("%", "%%")⟩

/-! ## What the common styles write -/

/-- A text with each percent sign written twice. -/
def doublePercents (text : String) : String :=
  String.ofList (text.toList.flatMap fun c => if c = '%' then ['%', '%'] else [c])

section Markers

variable (index : Nat)

@[simp] theorem marker_qmark : qmark.marker index = "?" :=
  rfl

@[simp] theorem marker_numeric : numeric.marker index = ":" ++ toString (index + 1) :=
  String.append_empty

@[simp] theorem marker_format : format.marker index = "%s" :=
  rfl

@[simp] theorem marker_named : named.marker index = ":p" ++ toString index := by
  show ":" ++ ("p" ++ toString index) ++ "" = _
  rw [String.append_empty, ← String.append_assoc]
  rfl

@[simp] theorem marker_pyformat : pyformat.marker index = "%(p" ++ toString index ++ ")s" := by
  show "%(" ++ ("p" ++ toString index) ++ ")s" = _
  rw [← String.append_assoc]
  rfl

end Markers

section Escapes

variable {style : MarkerStyle} (text : String)

theorem escaped_of_verbatim (h : style.escape = none) : style.escaped text = text := by
  rw [escaped, h]

theorem escaped_of_escape (h : style.escape = some ("%", "%%")) :
    style.escaped text = doublePercents text := by
  rw [escaped, h, doublePercents]
  show String.ofList (replaceAfter ['%'] ['%', '%'] 0 text.toList) = _
  rw [replaceAfter_singleton]

@[simp] theorem escaped_qmark : qmark.escaped text = text :=
  escaped_of_verbatim text rfl

@[simp] theorem escaped_numeric : numeric.escaped text = text :=
  escaped_of_verbatim text rfl

@[simp] theorem escaped_format : format.escaped text = doublePercents text :=
  escaped_of_escape text rfl

@[simp] theorem escaped_named : named.escaped text = text :=
  escaped_of_verbatim text rfl

@[simp] theorem escaped_pyformat : pyformat.escaped text = doublePercents text :=
  escaped_of_escape text rfl

end Escapes

end MarkerStyle

/-- The marker styles that are known, by name. -/
abbrev MarkerStyles := List (String × MarkerStyle)

namespace MarkerStyles

/-- The common styles. -/
def standard : MarkerStyles :=
  [("qmark", .qmark), ("numeric", .numeric), ("format", .format), ("named", .named),
   ("pyformat", .pyformat)]

/-- The styles with one registered under a name. -/
def register (styles : MarkerStyles) (name : String) (style : MarkerStyle) : MarkerStyles :=
  setNamed name style styles

/-- The names of the styles in ascending order. -/
def names (styles : MarkerStyles) : List String :=
  (styles.map (·.1)).mergeSort (fun a b => decide (a ≤ b))

/-- The style of a name. -/
def find (styles : MarkerStyles) (name : String) : Except Fault MarkerStyle :=
  match styles.lookup name with
  | some style => .ok style
  | none =>
    .error (.badOption ("Unsupported paramstyle: '" ++ name ++ "'. Registered styles: [" ++
      ", ".intercalate (styles.names.map quote) ++ "].") (some "paramstyle"))

end MarkerStyles

end SqlTemplate
