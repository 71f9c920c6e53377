import Mathlib.Data.List.TakeWhile
import SqlTemplate.Proofs.Statement.MarkerScan
import SqlTemplate.Text.Marked
/-!
# Names found in a statement

A clause of a statement is made of the text alone, so the names of the bindings have to be found again by their colons.
Whether a colon marks a name is up to the character in front of it and the one behind the name, and both may belong to
another text than the marker. Where the texts of a statement keep its markers apart, the names of all bindings are found,
in order, and besides them those that the texts mark themselves (`markedNames_around`).
-/

namespace SqlTemplate.TextClause

open Text Statement

/-! ## The names of bindings -/

theorem isWord_colon : isWord ':' = false := by
  decide +kernel

theorem isWord_of_isDigit {c : Char} (h : c.isDigit = true) : isWord c = true := by
  have hdigits : (48, 57) ∈ wordRanges := by
    unfold wordRanges
    exact List.mem_cons_self
  rw [isWord, inRanges, List.any_eq_true]
  exact ⟨(48, 57), hdigits, h⟩

/-- The names of bindings consist of word characters. -/
theorem isWord_of_mem_bindingName {index : Nat} {c : Char} (h : c ∈ (bindingName index).toList) : isWord c = true := by
  rcases eq_or_isDigit_of_mem_bindingName h with rfl | hdigit
  · decide +kernel
  · exact isWord_of_isDigit hdigit

theorem bindingName_ne_nil (index : Nat) : (bindingName index).toList ≠ [] := by
  simp [bindingName]

/-! ## Names in a longer text -/

/-- A text ends in a character that keeps a colon behind it from marking a name. -/
def blocksNext (text : List Char) : Bool :=
  text.getLast?.any blocksName

/-- A text goes on with the name in front of it, or has a colon there, for which the name is cut. -/
def goesOn (text : List Char) : Bool :=
  text.head?.any fun c => c == ':' || isWord c

section Append

variable {cut : List Char → Option (List Char)} {previous : Option Char} {name text rest : List Char}

/-- A name ends where the word characters do; what is behind the next character does not matter. -/
theorem nameAt?_eq (hname : ∀ c ∈ name, isWord c = true) (hrest : ∀ c ∈ rest.head?, isWord c = false) :
    nameAt? cut (name ++ rest) =
      if name.isEmpty then none else if rest.head? == some ':' then cut name else some name := by
  have hends : rest.takeWhile isWord = [] ∧ rest.dropWhile isWord = rest := by
    cases rest with
    | nil => exact ⟨rfl, rfl⟩
    | cons c rest =>
      have hc : ¬ isWord c = true := Bool.eq_false_iff.mp (hrest c rfl)
      exact ⟨List.takeWhile_cons_of_neg hc, List.dropWhile_cons_of_neg hc⟩
  rw [nameAt?, List.takeWhile_append_of_pos hname, List.dropWhile_append_of_pos hname, hends.1, hends.2,
    List.append_nil]

theorem nameAt?_append (hne : text ≠ []) (h : blocksNext text = false) (rest : List Char) :
    nameAt? cut (text ++ rest) = nameAt? cut text := by
  -- the last character is none of a name, so that a name in the text ends there
  have hlast : isWord (text.getLast hne) = false := by
    have hblocks : blocksName (text.getLast hne) = false := by
      rwa [blocksNext, List.getLast?_eq_getLast_of_ne_nil hne] at h
    exact (Bool.or_eq_false_iff.mp hblocks).2
  have hmore : text.dropWhile isWord ≠ [] := by
    intro hnone
    have hall := List.dropWhile_eq_nil_iff.mp hnone _ (List.getLast_mem hne)
    exact Bool.false_ne_true (hlast.symm.trans hall)
  obtain ⟨d, more, hd⟩ := List.exists_cons_of_ne_nil hmore
  have hword : isWord d = false := by
    have hhead := List.head?_dropWhile_not isWord text
    rw [hd] at hhead
    simpa using hhead
  have hname : ∀ c ∈ text.takeWhile isWord, isWord c = true := fun c hc => List.mem_takeWhile_imp hc
  have hsplit : text = text.takeWhile isWord ++ d :: more := by
    rw [← hd, List.takeWhile_append_dropWhile]
  have hends (more : List Char) : ∀ c ∈ (d :: more).head?, isWord c = false := by simpa using hword
  rw [hsplit, List.append_assoc, nameAt?_eq hname (hends more)]
  exact nameAt?_eq hname (hends (more ++ rest))

/-- A text that blocks nothing has its names apart from those behind. -/
theorem namesAfter_append (h : blocksNext text = false) (previous : Option Char) (rest : List Char) :
    namesAfter cut previous (text ++ rest)
      = namesAfter cut previous text ++ namesAfter cut (text.getLast?.or previous) rest := by
  induction text generalizing previous with
  | nil => rfl
  | cons c text ih =>
    cases text with
    | nil =>
      -- a colon at the end would go on with a name in the rest
      have hc : c ≠ ':' := by
        rintro rfl
        exact absurd h (by decide)
      simp [namesAfter, hc]
    | cons d text =>
      have hlast : ((c :: d :: text).getLast?.or previous) = (d :: text).getLast?.or (some c) := by
        simp [List.getLast?_cons]
      have htext : blocksNext (d :: text) = false := by
        rwa [blocksNext, List.getLast?_cons_cons] at h
      rw [List.cons_append, namesAfter, namesAfter, nameAt?_append (by simp) htext, ih htext, hlast]
      split
      · rw [List.append_assoc]
      · rfl

/-- In front of a text that does not start with a colon there may be any character. -/
theorem namesAfter_of_head? (h : rest.head? ≠ some ':') (previous : Option Char) :
    namesAfter cut previous rest = namesAfter cut none rest := by
  cases rest with
  | nil => rfl
  | cons c rest =>
    have hc : c ≠ ':' := fun heq => h (congrArg some heq)
    simp [namesAfter, hc]

/-- A name holds no colon. -/
theorem namesAfter_name (hname : ∀ c ∈ name, isWord c = true) (h : rest.head? ≠ some ':') (previous : Option Char) :
    namesAfter cut previous (name ++ rest) = namesAfter cut none rest := by
  induction name generalizing previous with
  | nil => exact namesAfter_of_head? h previous
  | cons c name ih =>
    obtain ⟨hword, hname⟩ := List.forall_mem_cons.mp hname
    have hc : c ≠ ':' := by
      rintro rfl
      exact Bool.false_ne_true (isWord_colon.symm.trans hword)
    rw [List.cons_append, namesAfter, ih hname]
    simp [hc]

/-- A marker is found if no character in front of it blocks its colon, and the text behind does not go on with it. -/
theorem namesAfter_marker (hprevious : previous.any blocksName = false) (hne : name ≠ [])
    (hname : ∀ c ∈ name, isWord c = true) (hrest : goesOn rest = false) :
    namesAfter cut previous (':' :: name ++ rest) = name :: namesAfter cut none rest := by
  have hcolon : rest.head? ≠ some ':' := by
    intro hhead
    rw [goesOn, hhead] at hrest
    exact absurd hrest (by decide)
  have hends : ∀ c ∈ rest.head?, isWord c = false := by
    intro c hc
    rw [goesOn, Option.mem_def.mp hc] at hrest
    exact (Bool.or_eq_false_iff.mp hrest).2
  have hfound : nameAt? cut (name ++ rest) = some name := by
    rw [nameAt?_eq hname hends]
    simp [hcolon, hne]
  rw [List.cons_append, namesAfter, hfound, namesAfter_name hname hcolon]
  simp [hprevious]

end Append

/-! ## Names in a statement -/

/-- Texts keep the markers between them apart: the colon of each marker marks a name, which is all of the label. -/
structure KeepsApart (around : Surroundings) : Prop where
  /-- The text in front does not block the first marker, if there is one. -/
  before : around.behind ≠ [] → blocksNext around.before.toList = false
  behind : ∀ text ∈ around.behind, goesOn text.toList = false
  /-- There is text between two markers, and it does not block the second. -/
  between : ∀ text ∈ around.behind.dropLast, text ≠ "" ∧ blocksNext text.toList = false

/-- Among markers with texts behind them, the names of the markers are found and those in each text. -/
theorem namesAfter_row {cut : List Char → Option (List Char)} {marker name : Nat → String} (hmarker : ∀ index, (marker index).toList = ':' :: (name index).toList)
    (hne : ∀ index, (name index).toList ≠ []) (hname : ∀ index, ∀ c ∈ (name index).toList, isWord c = true)
    {behind : List String} (hbehind : ∀ text ∈ behind, goesOn text.toList = false)
    (hbetween : ∀ text ∈ behind.dropLast, text ≠ "" ∧ blocksNext text.toList = false)
    {previous : Option Char} (hprevious : behind ≠ [] → previous.any blocksName = false) :
    namesAfter cut previous (String.join (behind.mapIdx fun index text => marker index ++ text)).toList
      = (behind.mapIdx fun index text => (name index).toList :: namesAfter cut none text.toList).flatten := by
  -- the marker in front is taken off, so that the others are numbered from one
  induction behind generalizing marker name previous with
  | nil => rfl
  | cons text behind ih =>
    obtain ⟨htext, hbehind⟩ := List.forall_mem_cons.mp hbehind
    rw [List.mapIdx_cons, List.mapIdx_cons, String.join_cons, String.toList_append, String.toList_append,
      List.flatten_cons, hmarker, List.append_assoc]
    cases behind with
    | nil =>
      have hrest : goesOn (text.toList ++ []) = false := by rwa [List.append_nil]
      exact (namesAfter_marker (hprevious (by simp)) (hne 0) (hname 0) hrest).trans (by simp)
    | cons next behind =>
      rw [List.dropLast_cons_cons, List.forall_mem_cons] at hbetween
      obtain ⟨⟨hsome, hblocks⟩, hbetween⟩ := hbetween
      have hletters : text.toList ≠ [] := fun hnil => hsome (String.toList_eq_nil_iff.mp hnil)
      have hnext : ∀ index, (marker (index + 1)).toList = ':' :: (name (index + 1)).toList :=
        fun index => hmarker (index + 1)
      have hlast : next :: behind ≠ [] → text.toList.getLast?.any blocksName = false := fun _ => hblocks
      have hrow := ih hnext (fun index => hne (index + 1)) (fun index => hname (index + 1)) hbehind hbetween hlast
      have hrest : ∀ row, goesOn (text.toList ++ row) = false := by
        intro row
        rwa [goesOn, List.head?_append_of_ne_nil _ hletters]
      rw [namesAfter_marker (hprevious (by simp)) (hne 0) (hname 0) (hrest _), namesAfter_append hblocks,
        Option.or_none, hrow]
      rfl

/-- If the texts of a statement with named markers keep these apart, the names of the bindings are found in it, and those
that the texts mark themselves. -/
theorem markedNames_around (cut : List Char → Option (List Char)) {around : Surroundings} (h : KeepsApart around) :
    markedNames cut (around.before ++ String.join (around.behind.mapIdx fun index text =>
        MarkerStyle.named.marker (index : Nat) ++ text))
      = markedNames cut around.before
        ++ (around.behind.mapIdx fun index text => bindingName index :: markedNames cut text).flatten := by
  have hmarker (index : Nat) : (MarkerStyle.named.marker index).toList = ':' :: (bindingName index).toList := by
    simp [MarkerStyle.marker, MarkerStyle.named]
  have hrow (previous : Option Char) (hprevious : around.behind ≠ [] → previous.any blocksName = false) :
      (namesAfter cut previous (String.join (around.behind.mapIdx fun index text =>
          MarkerStyle.named.marker (index : Nat) ++ text)).toList).map String.ofList
        = (around.behind.mapIdx fun index text => bindingName index :: markedNames cut text).flatten := by
    rw [namesAfter_row hmarker (fun index => bindingName_ne_nil index) (fun index _ => isWord_of_mem_bindingName)
      h.behind h.between hprevious, List.map_flatten, List.mapIdx_eq_zipIdx_map, List.mapIdx_eq_zipIdx_map,
      List.map_map]
    congr 2
    funext entry
    exact congrArg (· :: _) String.ofList_toList
  rw [markedNames, String.toList_append]
  by_cases hnone : around.behind = []
  · simp [hnone, markedNames]
  · rw [namesAfter_append (h.before hnone), List.map_append, Option.or_none, hrow _ fun _ => h.before hnone]
    rfl

end SqlTemplate.TextClause
